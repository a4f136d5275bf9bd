import Snekql.GateMoves

/-!
# Fair admission in every run

Every move of the gate keeps its invariant, hence so does every run: the count of
admitted acquirers is exact and bounded, tickets are served in the order they were
taken, no ticket outlives its acquirer's stay, and a free slot is never left
unannounced to the head of the queue.
-/

namespace Snekql.PoolGate

variable {task : Nat} {ticket : Option Nat} {phase : Phase}

section Preservation

variable {capacity : Nat} {state base after : State} {actor : Option Nat} {task : Nat} {old phase : Phase}

/-- How a move that gives one acquirer a new phase may change the rest of the
gate: `base` is the gate before the phase is stored. -/
structure Replaces (capacity : Nat) (state base : State) (old phase : Phase) : Prop where
  tasks : base.tasks = state.tasks ∨ base.tasks = state.tasks.map Phase.notify
  lock : base.lock = none
  suspended : ∀ next, phase ≠ .lockQueue next
  slots : base.admitted + old.holdsSlot.toNat = state.admitted + phase.holdsSlot.toNat
  room : base.admitted ≤ capacity
  issuing : state.nextTicket ≤ base.nextTicket
  ticket : phase.ticket = old.ticket ∨
    (phase.ticket = some state.nextTicket ∧ state.nextTicket < base.nextTicket)
  queue : ∀ ticket, ticket ∈ base.waiters ↔
    phase.queued = some ticket ∨ (ticket ∈ state.waiters ∧ old.queued ≠ some ticket)
  announced : base.admitted < capacity → ∀ ticket, base.waiters.head? = some ticket →
    phase ≠ .parked ticket false ∧ ¬ base.Silent ticket
  servedOrder : (base.served.filterMap id ++ base.waiters).Pairwise (· < ·)
  servedIssued : ∀ ticket ∈ base.served.filterMap id, ticket < base.nextTicket

namespace Replaces

/-- Notified or not, the acquirers keep their tickets. -/
theorem ticketAt_eq (replaces : Replaces capacity state base old phase) (other : Nat) :
    base.ticketAt other = state.ticketAt other := by
  rcases replaces.tasks with same | notified
  · rw [State.ticketAt, same, State.ticketAt]
  · rw [← State.ticketAt_notifyAll state, State.ticketAt, notified, State.ticketAt, State.notifyAll]

theorem queuedAt_eq (replaces : Replaces capacity state base old phase) (other : Nat) :
    base.queuedAt other = state.queuedAt other := by
  rcases replaces.tasks with same | notified
  · rw [State.queuedAt, same, State.queuedAt]
  · rw [← State.queuedAt_notifyAll state, State.queuedAt, notified, State.queuedAt, State.notifyAll]

theorem holders_eq (replaces : Replaces capacity state base old phase) :
    base.holders = state.holders := by
  rcases replaces.tasks with same | notified
  · rw [State.holders, same, State.holders]
  · rw [← State.holders_notifyAll state, State.holders, notified, State.holders, State.notifyAll]

theorem current_eq (replaces : Replaces capacity state base old phase)
    (current : state.tasks[task]? = some old) :
    ∃ seen, base.tasks[task]? = some seen ∧ seen.holdsSlot = old.holdsSlot := by
  rcases replaces.tasks with same | notified
  · exact ⟨old, by rw [same, current], rfl⟩
  · exact ⟨old.notify, by simp [notified, current], by simp⟩

/-- The index reasoning of every move that stores a phase, done once. -/
theorem preserves (invariant : Invariant capacity state)
    (current : state.tasks[task]? = some old)
    (replaces : Replaces capacity state base old phase) :
    Invariant capacity (base.put task phase) := by
  obtain ⟨seen, found, holds⟩ := replaces.current_eq current
  have ownTicket : state.ticketAt task = old.ticket := by simp [State.ticketAt, current]
  have ownQueued : state.queuedAt task = old.queued := by simp [State.queuedAt, current]
  have tickets : ∀ other, (base.put task phase).ticketAt other =
      if other = task then phase.ticket else state.ticketAt other := fun other => by
    rw [State.ticketAt_put found, replaces.ticketAt_eq]
  have queued : ∀ other, (base.put task phase).queuedAt other =
      if other = task then phase.queued else state.queuedAt other := fun other => by
    rw [State.queuedAt_put found, replaces.queuedAt_eq]
  refine ⟨replaces.lock, ?_, ?_, replaces.room, ?_, ?_, ?_, ?_, replaces.servedOrder,
    replaces.servedIssued⟩
  · intro other next stored
    rw [State.put, List.getElem?_set] at stored
    split at stored
    · split at stored
      · exact replaces.suspended next (by simpa using stored)
      · cases stored
    · rcases replaces.tasks with same | notified
      · exact invariant.settled other next (same ▸ stored)
      · simp only [notified, List.getElem?_map, Option.map_eq_some_iff] at stored
        obtain ⟨before, inside, marked⟩ := stored
        cases before <;> simp_all [Phase.notify]
        exact invariant.settled other _ inside
  · have stored : (base.put task phase).holders + seen.holdsSlot.toNat =
        base.holders + phase.holdsSlot.toNat := State.holders_put found
    have counted := invariant.counted
    have slots := replaces.slots
    rw [replaces.holders_eq, holds] at stored
    change base.admitted = ((base.put task phase).holders : Int)
    omega
  · intro other ticket taken
    change ticket < base.nextTicket
    have issued := invariant.issued other ticket
    have issuing := replaces.issuing
    rw [tickets] at taken
    split at taken
    · next same =>
      subst same
      rcases replaces.ticket with kept | ⟨fresh, room⟩
      · rw [kept, ← ownTicket] at taken
        exact Nat.lt_of_lt_of_le (issued taken) issuing
      · rw [fresh, Option.some.injEq] at taken
        omega
    · exact Nat.lt_of_lt_of_le (issued taken) issuing
  · have clash : ∀ other ticket, other ≠ task → phase.ticket = some ticket →
        state.ticketAt other ≠ some ticket := by
      intro other ticket apart mine theirs
      rcases replaces.ticket with kept | ⟨fresh, -⟩
      · exact apart (invariant.unique other task ticket theirs (by rw [ownTicket, ← kept, mine]))
      · have issued := invariant.issued other ticket theirs
        rw [fresh, Option.some.injEq] at mine
        omega
    intro first second ticket taken shared
    rw [tickets] at taken shared
    split at taken <;> split at shared
    · simp_all
    · next same apart => exact absurd shared (clash second ticket apart taken)
    · next apart same => exact absurd taken (clash first ticket apart shared)
    · exact invariant.unique first second ticket taken shared
  · intro ticket
    change ticket ∈ base.waiters ↔ _
    simp only [replaces.queue, queued]
    constructor
    · rintro (mine | ⟨waiting, dropped⟩)
      · exact ⟨task, by simpa using mine⟩
      · obtain ⟨other, theirs⟩ := (invariant.owned ticket).mp waiting
        refine ⟨other, ?_⟩
        rw [if_neg]
        · exact theirs
        · rintro rfl
          exact dropped (ownQueued ▸ theirs)
    · rintro ⟨other, held⟩
      split at held
      · exact Or.inl held
      · next apart =>
        refine Or.inr ⟨(invariant.owned ticket).mpr ⟨other, held⟩, fun mine => apart ?_⟩
        exact invariant.unique other task ticket (Invariant.ticketAt_of_queuedAt held)
          (Invariant.ticketAt_of_queuedAt (ownQueued.trans mine))
  · intro room ticket head silent
    obtain ⟨notParked, quiet⟩ := replaces.announced room ticket head
    rcases State.silent_put silent with parked | silent
    · exact notParked parked
    · exact quiet silent

end Replaces

/-- Serving the head of the queue moves its ticket from the queue to the history. -/
theorem served_turn {waiters : List Nat} (turn : state.waiters = ticket.toList ++ waiters) :
    (state.served ++ [ticket]).filterMap id ++ waiters =
      state.served.filterMap id ++ state.waiters := by
  cases ticket <;> simp [turn, List.filterMap_append]

theorem served_issued {waiters : List Nat} (invariant : Invariant capacity state)
    (turn : state.waiters = ticket.toList ++ waiters) :
    ∀ past ∈ (state.served ++ [ticket]).filterMap id, past < state.nextTicket := by
  intro past served
  rw [List.filterMap_append, List.mem_append] at served
  rcases served with before | now
  · exact invariant.servedIssued past before
  · refine invariant.waiting_issued (turn ▸ List.mem_append_left _ ?_)
    cases ticket with
    | none => simp at now
    | some ticket => simpa using now

/-- The queue behind the acquirer being served: everyone but that acquirer. -/
theorem queue_turn {waiters : List Nat} (invariant : Invariant capacity state)
    (turn : state.waiters = ticket.toList ++ waiters) (other : Nat) :
    other ∈ waiters ↔ other ∈ state.waiters ∧ ticket ≠ some other := by
  have distinct := invariant.distinct
  cases ticket with
  | none => simp [turn]
  | some ticket =>
    simp only [turn, Option.toList_some, List.singleton_append, List.nodup_cons] at distinct
    simp only [turn, Option.toList_some, List.singleton_append, List.mem_cons]
    grind

/-- A new acquirer is the last one and has no ticket yet. -/
theorem getElem?_arrive (tasks : List Phase) (task : Nat) :
    (tasks ++ [.checkpoint none])[task]? = tasks[task]? ∨
      (tasks[task]? = none ∧ (tasks ++ [.checkpoint none])[task]? = some (.checkpoint none)) := by
  rcases Nat.lt_trichotomy task tasks.length with inside | last | outside
  · exact Or.inl (List.getElem?_append_left inside)
  · exact Or.inr ⟨List.getElem?_eq_none (by omega), by simp [last]⟩
  · left
    rw [List.getElem?_eq_none (by simp; omega), List.getElem?_eq_none (by omega)]

theorem arrive_preserves (invariant : Invariant capacity state) :
    Invariant capacity { state with tasks := state.tasks ++ [.checkpoint none] } := by
  have tickets : ∀ task, State.ticketAt { state with tasks := state.tasks ++ [.checkpoint none] }
      task = state.ticketAt task := by
    intro task
    rcases getElem?_arrive state.tasks task with same | ⟨absent, new⟩
    · simp only [State.ticketAt, same]
    · simp [State.ticketAt, absent, new, Phase.ticket]
  have queued : ∀ task, State.queuedAt { state with tasks := state.tasks ++ [.checkpoint none] }
      task = state.queuedAt task := by
    intro task
    rcases getElem?_arrive state.tasks task with same | ⟨absent, new⟩
    · simp only [State.queuedAt, same]
    · simp [State.queuedAt, absent, new, Phase.queued]
  refine ⟨invariant.unlocked, ?_, ?_, invariant.bounded, ?_, ?_, ?_, ?_, invariant.servedOrder,
    invariant.servedIssued⟩
  · intro task next
    rcases getElem?_arrive state.tasks task with same | ⟨-, new⟩
    · exact same ▸ invariant.settled task next
    · simp [new]
  · simpa [State.holders, Phase.holdsSlot] using invariant.counted
  · simpa only [tickets] using invariant.issued
  · simpa only [tickets] using invariant.unique
  · simpa only [queued] using invariant.owned
  · rintro room ticket head ⟨task, silent⟩
    rcases getElem?_arrive state.tasks task with same | ⟨-, new⟩
    · exact invariant.announced room ticket head ⟨task, same ▸ silent⟩
    · exact absurd (new.symm.trans silent) (by simp)

theorem notifyAll_preserves (invariant : Invariant capacity state) :
    Invariant capacity state.notifyAll := by
  refine ⟨invariant.unlocked, ?_, ?_, invariant.bounded, ?_, ?_, ?_, ?_, invariant.servedOrder,
    invariant.servedIssued⟩
  · intro task next stored
    simp only [State.notifyAll, List.getElem?_map, Option.map_eq_some_iff] at stored
    obtain ⟨before, inside, marked⟩ := stored
    cases before <;> simp [Phase.notify] at marked
    exact invariant.settled task _ inside
  · simpa using invariant.counted
  · simpa using invariant.issued
  · simpa using invariant.unique
  · simpa using invariant.owned
  · exact fun _ ticket _ => State.not_silent_notifyAll state ticket

/-- Each move keeps the invariant. -/
theorem Move.preserves (move : Move capacity state actor after)
    (invariant : Invariant capacity state) : Invariant capacity after := by
  have bounded := invariant.bounded
  have counted := invariant.counted
  cases move with
  | arrive => exact arrive_preserves invariant
  | depart departure current =>
    refine Replaces.preserves invariant current ⟨Or.inl rfl, invariant.unlocked, by simp,
      by simp [Phase.holdsSlot], bounded, Nat.le_refl _, Or.inl rfl, by simp [Phase.queued], ?_,
      invariant.servedOrder, invariant.servedIssued⟩
    exact fun room ticket head => ⟨by simp, invariant.announced room ticket head⟩
  | @drop task ticket old departure current queued =>
    have free : old.holdsSlot = false := by cases old <;> simp_all [Phase.queued, Phase.holdsSlot]
    refine Replaces.preserves invariant current ⟨Or.inr rfl, invariant.unlocked, by simp,
      by rw [free]; rfl, bounded, Nat.le_refl _, Or.inl (Phase.ticket_of_queued queued).symm,
      ?_, ?_, invariant.servedOrder.sublist (List.erase_sublist.append_left _),
      invariant.servedIssued⟩
    · intro other
      rw [queued]
      simp only [State.discardWaiter, State.notifyAll, invariant.distinct.mem_erase_iff,
        Phase.queued]
      grind
    · exact fun _ other _ => ⟨by simp, State.not_silent_notifyAll _ other⟩
  | expireFresh current =>
    refine Replaces.preserves invariant current ⟨Or.inr rfl, invariant.unlocked, by simp,
      by simp [Phase.holdsSlot, State.notifyAll], bounded, Nat.le_succ _,
      Or.inr ⟨rfl, Nat.lt_succ_self _⟩, by simp [Phase.queued, State.notifyAll], ?_,
      invariant.servedOrder, fun past served => ?_⟩
    · exact fun _ other _ => ⟨by simp, State.not_silent_notifyAll _ other⟩
    · exact Nat.lt_succ_of_lt (invariant.servedIssued past served)
  | @grant task ticket waiters woken current turn fresh accepting room announced =>
    cases woken with
    | true =>
      refine Replaces.preserves invariant current ⟨Or.inr rfl, invariant.unlocked, by simp,
        by simp [Phase.holdsSlot, State.notifyAll], ?_, Nat.le_refl _, Or.inl rfl, ?_, ?_,
        ?_, served_issued invariant turn⟩
      · change state.admitted + 1 ≤ (capacity : Int)
        omega
      · simpa [Phase.queued, State.notifyAll] using queue_turn invariant turn
      · exact fun _ other _ => ⟨by simp, State.not_silent_notifyAll _ other⟩
      · exact (served_turn turn).symm ▸ invariant.servedOrder
    | false =>
      refine Replaces.preserves invariant current ⟨Or.inl rfl, invariant.unlocked, by simp,
        by simp [Phase.holdsSlot], ?_, Nat.le_refl _, Or.inl rfl, ?_, ?_,
        ?_, served_issued invariant turn⟩
      · change state.admitted + 1 ≤ (capacity : Int)
        omega
      · simpa [Phase.queued] using queue_turn invariant turn
      · exact fun more => absurd (announced more) (by simp)
      · exact (served_turn turn).symm ▸ invariant.servedOrder
  | @withdraw task ticket waiters current turn fresh accepting =>
    refine Replaces.preserves invariant current ⟨Or.inr rfl, invariant.unlocked, by simp,
      by simp [Phase.holdsSlot, State.notifyAll], bounded, Nat.le_refl _, Or.inl rfl, ?_, ?_,
      ?_, served_issued invariant turn⟩
    · simpa [Phase.queued, State.notifyAll] using queue_turn invariant turn
    · exact fun _ other _ => ⟨by simp, State.not_silent_notifyAll _ other⟩
    · exact (served_turn turn).symm ▸ invariant.servedOrder
  | @enqueue task current contended =>
    have fresh : state.nextTicket ∉ state.waiters := fun waiting =>
      Nat.lt_irrefl _ (invariant.waiting_issued waiting)
    refine Replaces.preserves invariant current ⟨Or.inl rfl, invariant.unlocked, by simp,
      by simp [Phase.holdsSlot], bounded, Nat.le_succ _, Or.inr ⟨rfl, Nat.lt_succ_self _⟩,
      ?_, ?_, ?_, fun past served => Nat.lt_succ_of_lt (invariant.servedIssued past served)⟩
    · intro ticket
      simp only [List.mem_append, List.mem_singleton, Phase.queued]
      grind
    · intro room ticket head
      change (state.waiters ++ [state.nextTicket]).head? = some ticket at head
      rw [List.head?_append_of_ne_nil _ (contended room)] at head
      refine ⟨?_, invariant.announced room ticket head⟩
      rintro ⟨⟩
      exact fresh (List.mem_of_head? head)
    · change (state.served.filterMap id ++ (state.waiters ++ [state.nextTicket])).Pairwise _
      rw [← List.append_assoc, List.pairwise_append]
      refine ⟨invariant.servedOrder, List.pairwise_singleton _ _, ?_⟩
      intro past earlier ticket last
      rw [List.mem_singleton.mp last]
      rcases List.mem_append.mp earlier with served | waiting
      · exact invariant.servedIssued past served
      · exact invariant.waiting_issued waiting
  | @repark task ticket current contended =>
    have waiting : ticket ∈ state.waiters :=
      (invariant.owned ticket).mpr ⟨task, by simp [State.queuedAt, current, Phase.queued]⟩
    refine Replaces.preserves invariant current ⟨Or.inl rfl, invariant.unlocked, by simp,
      by simp [Phase.holdsSlot], bounded, Nat.le_refl _, Or.inl rfl, ?_, ?_,
      invariant.servedOrder, invariant.servedIssued⟩
    · simp only [Phase.queued]
      grind
    · intro room other head
      refine ⟨?_, invariant.announced room other head⟩
      rintro ⟨⟩
      exact contended room head
  | @rejoin task ticket current =>
    have waiting : ticket ∈ state.waiters :=
      (invariant.owned ticket).mpr ⟨task, by simp [State.queuedAt, current, Phase.queued]⟩
    refine Replaces.preserves invariant current ⟨Or.inl rfl, invariant.unlocked, by simp,
      by simp [Phase.holdsSlot], bounded, Nat.le_refl _, Or.inl rfl, ?_, ?_,
      invariant.servedOrder, invariant.servedIssued⟩
    · simp only [Phase.queued]
      grind
    · exact fun room other head => ⟨by simp, invariant.announced room other head⟩
  | release current =>
    refine Replaces.preserves invariant current ⟨Or.inr rfl, invariant.unlocked, by simp,
      by simp [Phase.holdsSlot, State.notifyAll], ?_, Nat.le_refl _, Or.inl rfl,
      by simp [Phase.queued, State.notifyAll], ?_, invariant.servedOrder, invariant.servedIssued⟩
    · change state.admitted - 1 ≤ (capacity : Int)
      omega
    · exact fun _ other _ => ⟨by simp, State.not_silent_notifyAll _ other⟩
  | regulate accepting notify =>
    have regulated : Invariant capacity { state with accepting := accepting } :=
      ⟨invariant.unlocked, invariant.settled, counted, bounded, invariant.issued,
        invariant.unique, invariant.owned, invariant.announced, invariant.servedOrder,
        invariant.servedIssued⟩
    cases notify with
    | false => exact regulated
    | true => exact notifyAll_preserves regulated

theorem step_preserves {event : Event} (invariant : Invariant capacity state)
    (stepped : step capacity state event = some after) : Invariant capacity after :=
  (step_moves invariant stepped).preserves invariant

/-- The invariant holds after every run of the gate. -/
theorem run_holds {events : List Event}
    (ran : Runs.run (step capacity) initial events = some state) : Invariant capacity state :=
  Runs.run_invariant (Invariant capacity) (fun _ _ _ => step_preserves) (Invariant.initial_holds capacity) ran

end Preservation

/-- What an acquirer may rely on in a gate's state: the bound, the order of the
queue and of the service, that nobody overtakes, that a ticket leaves the queue
with its acquirer, and that a free slot is always announced. -/
structure Fair (capacity : Nat) (state : State) : Prop where
  nonnegative : 0 ≤ state.admitted
  bounded : state.admitted ≤ capacity
  increasing : state.waiters.Pairwise (· < ·)
  inTicketOrder : (state.served.filterMap id).Pairwise (· < ·)
  recorded : ∀ event next (task : Nat) ticket, step capacity state event = some next →
    state.tasks[task]? ≠ some (.admitted ticket) → next.tasks[task]? = some (.admitted ticket) →
    next.served = state.served ++ [ticket]
  notOvertaken : ∀ event next ticket, step capacity state event = some next →
    next.served = state.served ++ [ticket] →
    match ticket with
    | none => state.waiters = []
    | some ticket => state.waiters.head? = some ticket
  forgotten : ∀ (task : Nat) ticket,
    (state.tasks[task]? = some (.admitted (some ticket)) ∨
      ∃ departure, state.tasks[task]? = some (.left departure (some ticket))) →
    ticket ∉ state.waiters
  announced : state.admitted < capacity → state.lock = none →
    ∀ head rest, state.waiters = head :: rest →
      (∃ task : Nat, state.tasks[task]? = some (.checkpoint (some head)) ∨
        state.tasks[task]? = some (.parked head true)) ∧
      ∀ task : Nat, state.tasks[task]? ≠ some (.parked head false)

section Fairness

variable {capacity : Nat} {state after : State} {actor : Option Nat}

/-- An acquirer whose phase a broadcast shows as admitted was admitted before. -/
theorem admitted_of_notify (shown : phase.notify = .admitted ticket) : phase = .admitted ticket := by
  cases phase <;> simp_all [Phase.notify]

theorem admitted_notifyAll (shown : state.notifyAll.tasks[task]? = some (.admitted ticket)) :
    state.tasks[task]? = some (.admitted ticket) := by
  simp only [State.notifyAll, List.getElem?_map, Option.map_eq_some_iff] at shown
  obtain ⟨phase, found, shown⟩ := shown
  rw [found, admitted_of_notify shown]

theorem admitted_put {other : Nat}
    (shown : (state.put other phase).tasks[task]? = some (.admitted ticket)) :
    phase = .admitted ticket ∨ state.tasks[task]? = some (.admitted ticket) := by
  rw [State.put, List.getElem?_set] at shown
  split at shown
  · split at shown
    · exact Or.inl (Option.some.inj shown)
    · cases shown
  · exact Or.inr shown

/-- Storing another phase admits nobody, and neither does a broadcast before it. -/
theorem stays {other : Nat} (outside : state.tasks[task]? ≠ some (.admitted ticket))
    (different : phase ≠ .admitted ticket) :
    (state.put other phase).tasks[task]? ≠ some (.admitted ticket) := by
  intro shown
  obtain stored | before := admitted_put shown
  · exact different stored
  · exact outside before

theorem stays_notified {other : Nat} (outside : state.tasks[task]? ≠ some (.admitted ticket))
    (different : phase ≠ .admitted ticket) :
    (state.notifyAll.put other phase).tasks[task]? ≠ some (.admitted ticket) :=
  stays (fun shown => outside (admitted_notifyAll shown)) different

/-- A newly admitted acquirer is one that a grant has recorded. -/
theorem Move.recorded (move : Move capacity state actor after)
    (outside : state.tasks[task]? ≠ some (.admitted ticket))
    (shown : after.tasks[task]? = some (.admitted ticket)) :
    after.served = state.served ++ [ticket] := by
  cases move with
  | arrive =>
    obtain same | ⟨-, new⟩ := getElem?_arrive state.tasks task
    · exact absurd (same ▸ shown) outside
    · exact absurd (new.symm.trans shown) (by simp)
  | depart departure current => exact absurd shown (stays outside (by simp))
  | drop | expireFresh => exact absurd shown (stays_notified outside (by simp))
  | @grant other granted waiters woken current turn fresh accepting room announced =>
    have kept : granted = ticket ∨ state.tasks[task]? = some (.admitted ticket) := by
      cases woken with
      | true =>
        obtain stored | before := admitted_put shown
        · exact Or.inl (Phase.admitted.inj stored)
        · exact Or.inr (admitted_notifyAll before)
      | false =>
        obtain stored | before := admitted_put shown
        · exact Or.inl (Phase.admitted.inj stored)
        · exact Or.inr before
    have same : granted = ticket := kept.resolve_right outside
    cases woken <;> rw [← same] <;> rfl
  | withdraw current turn fresh accepting => exact absurd shown (stays_notified outside (by simp))
  | enqueue | repark | rejoin => exact absurd shown (stays outside (by simp))
  | release current => exact absurd shown (stays_notified outside (by simp))
  | regulate accepting notify =>
    cases notify with
    | false => exact absurd shown outside
    | true => exact absurd (admitted_notifyAll shown) outside

/-- The history grows by the head of the queue, or by a fresh acquirer when the
queue is empty. -/
theorem Move.notOvertaken (move : Move capacity state actor after)
    (grown : after.served = state.served ++ [ticket]) :
    ∃ waiters, state.waiters = ticket.toList ++ waiters ∧ (ticket = none → waiters = []) := by
  have idle : state.served ≠ state.served ++ [ticket] := by simp
  cases move with
  | arrive | depart | drop | expireFresh | enqueue | repark | rejoin | release =>
    exact absurd grown idle
  | regulate accepting notify =>
    cases notify <;> exact absurd grown idle
  | @grant task granted waiters woken current turn fresh accepting room announced =>
    have same : granted = ticket := by
      cases woken <;> simpa [State.put, State.notifyAll] using grown
    exact ⟨waiters, same ▸ turn, same ▸ fresh⟩
  | @withdraw task granted waiters current turn fresh accepting =>
    have same : granted = ticket := by simpa [State.put, State.notifyAll] using grown
    exact ⟨waiters, same ▸ turn, same ▸ fresh⟩

/-- Storing a phase changes who holds a slot only at its own position. -/
theorem slots_put {base : State}
    (alike : base.tasks = state.tasks ∨ base.tasks = state.tasks.map Phase.notify) :
    (base.put task phase).tasks.map Phase.holdsSlot =
      (state.tasks.map Phase.holdsSlot).set task phase.holdsSlot := by
  have same : base.tasks.map Phase.holdsSlot = state.tasks.map Phase.holdsSlot := by
    obtain same | notified := alike
    · rw [same]
    · simp [notified, Function.comp_def]
  rw [State.put, List.map_set, same]

/-- A turn of an acquirer at the gate either leaves every slot as it was, or admits
that acquirer, and then the pool was accepting work. -/
theorem Move.turn {old : Phase} (move : Move capacity state (some task) after)
    (current : state.tasks[task]? = some old) (waiting : old.holdsSlot = false) :
    after.accepting = state.accepting ∧
      (((∀ ticket, after.tasks[task]? ≠ some (.admitted ticket)) ∧
          after.admitted = state.admitted ∧
          after.tasks.map Phase.holdsSlot = state.tasks.map Phase.holdsSlot) ∨
        ((∃ ticket, after.tasks[task]? = some (.admitted ticket)) ∧ state.accepting = true ∧
          after.admitted = state.admitted + 1 ∧
          after.tasks.map Phase.holdsSlot = (state.tasks.map Phase.holdsSlot).set task true)) := by
  obtain ⟨inside, found⟩ := List.getElem?_eq_some_iff.mp current
  have unchanged : (state.tasks.map Phase.holdsSlot).set task false =
      state.tasks.map Phase.holdsSlot := by
    rw [← waiting, ← found, ← List.getElem_map Phase.holdsSlot, List.set_getElem_self]
    simpa using inside
  have idle : ∀ (base : State) (phase : Phase),
      (base.tasks = state.tasks ∨ base.tasks = state.tasks.map Phase.notify) →
      phase.holdsSlot = false →
      (∀ ticket, (base.put task phase).tasks[task]? ≠ some (.admitted ticket)) ∧
        (base.put task phase).admitted = base.admitted ∧
        (base.put task phase).tasks.map Phase.holdsSlot = state.tasks.map Phase.holdsSlot := by
    intro base phase alike free
    have slots := @slots_put task phase state base alike
    rw [free, unchanged] at slots
    refine ⟨fun ticket shown => ?_, rfl, slots⟩
    have held : ((base.put task phase).tasks.map Phase.holdsSlot)[task]? = some true := by
      simp [shown, Phase.holdsSlot]
    rw [slots, List.getElem?_map, current, Option.map_some, waiting] at held
    cases held
  cases move with
  | depart departure _ => exact ⟨rfl, Or.inl (idle _ _ (Or.inl rfl) rfl)⟩
  | drop departure _ queued | expireFresh _ => exact ⟨rfl, Or.inl (idle _ _ (Or.inr rfl) rfl)⟩
  | @grant _ ticket waiters woken _ turn fresh accepting room announced =>
    cases woken with
    | true =>
      refine ⟨rfl, Or.inr ⟨⟨ticket, ?_⟩, accepting, rfl, slots_put (Or.inr rfl)⟩⟩
      simp [State.put, State.notifyAll, inside]
    | false =>
      refine ⟨rfl, Or.inr ⟨⟨ticket, ?_⟩, accepting, rfl, slots_put (Or.inl rfl)⟩⟩
      simp [State.put, inside]
  | withdraw _ turn fresh accepting => exact ⟨rfl, Or.inl (idle _ _ (Or.inr rfl) rfl)⟩
  | enqueue _ contended | repark _ contended | rejoin _ =>
    exact ⟨rfl, Or.inl (idle _ _ (Or.inl rfl) rfl)⟩
  | release held =>
    rw [current, Option.some.injEq] at held
    simp [held, Phase.holdsSlot] at waiting

/-- A gate whose pool does not accept work serves nobody. -/
theorem Move.served_closed (move : Move capacity state actor after)
    (refusing : state.accepting = false) : after.served = state.served := by
  cases move with
  | grant woken current turn fresh accepting | withdraw current turn fresh accepting =>
    simp [refusing] at accepting
  | regulate accepting notify => cases notify <;> rfl
  | _ => rfl

/-- An acquirer that was admitted or has left owns no queued ticket. -/
theorem Invariant.forgotten (invariant : Invariant capacity state) {ticket : Nat}
    (current : state.tasks[task]? = some phase) (taken : phase.ticket = some ticket)
    (outside : phase.queued = none) : ticket ∉ state.waiters := by
  intro waiting
  obtain ⟨owner, queued⟩ := (invariant.owned ticket).mp waiting
  have same : owner = task := invariant.unique owner task ticket
    (Invariant.ticketAt_of_queuedAt queued) (by simp [State.ticketAt, current, taken])
  subst same
  simp [State.queuedAt, current, outside] at queued

/-- The head of the queue is on its way to a free slot. -/
theorem Invariant.head_awake (invariant : Invariant capacity state)
    (room : state.admitted < capacity) {head : Nat} {rest : List Nat}
    (queue : state.waiters = head :: rest) :
    ∃ task : Nat, state.tasks[task]? = some (.checkpoint (some head)) ∨
      state.tasks[task]? = some (.parked head true) := by
  obtain ⟨task, queued⟩ := (invariant.owned head).mp (queue ▸ List.mem_cons_self)
  have loud := invariant.announced room head (by simp [queue])
  simp only [State.queuedAt, Option.bind_eq_some_iff] at queued
  obtain ⟨phase, current, waits⟩ := queued
  refine ⟨task, ?_⟩
  cases phase with
  | checkpoint ticket => exact Or.inl (current.trans (by simpa [Phase.queued] using waits))
  | parked ticket notified =>
    have same : ticket = head := by simpa [Phase.queued] using waits
    cases notified with
    | true => exact Or.inr (same ▸ current)
    | false => exact absurd ⟨task, same ▸ current⟩ loud
  | lockQueue | admitted | left => simp [Phase.queued] at waits

/-- For any capacity and any interleaving of arrivals, resumptions, releases,
timeouts, cancellations, failing observers and changes of the pool's mind, the
gate is fair in the state reached. -/
theorem admission_is_fair (capacity : Nat) (events : List Event) (state : State)
    (ran : Runs.run (step capacity) initial events = some state) : Fair capacity state := by
  have invariant : Invariant capacity state := run_holds ran
  refine ⟨?_, invariant.bounded, invariant.ordered, ?_, ?_, ?_, ?_, ?_⟩
  · rw [invariant.counted]
    exact Int.natCast_nonneg _
  · exact (List.pairwise_append.mp invariant.servedOrder).1
  · intro event next task ticket stepped outside shown
    exact (step_moves invariant stepped).recorded outside shown
  · intro event next ticket stepped grown
    obtain ⟨waiters, turn, fresh⟩ := (step_moves invariant stepped).notOvertaken grown
    cases ticket with
    | none => simpa [fresh rfl] using turn
    | some ticket => simp [turn]
  · intro task ticket outside
    obtain current | ⟨departure, current⟩ := outside
    · exact invariant.forgotten current rfl rfl
    · exact invariant.forgotten current rfl rfl
  · intro room _ head rest queue
    refine ⟨invariant.head_awake room queue, fun task silent => ?_⟩
    exact invariant.announced room head (by simp [queue]) ⟨task, silent⟩

/-- One slot: a second acquirer parks, the holder leaves, a third arrives and is
cancelled at its checkpoint, and the slot is free with the parked one notified. -/
theorem admission_is_fair_after_release :
    Fair 1
      { admitted := 0, waiters := [0], nextTicket := 1, lock := none, accepting := true,
        tasks := [.left .released none, .parked 0 true, .left .cancelled none],
        served := [none] } :=
  admission_is_fair 1
    [.arrive, .arrive, .resume 0 false false, .resume 1 false false, .release 0, .arrive,
      .cancel 2] _ (by decide)

end Fairness

end Snekql.PoolGate
