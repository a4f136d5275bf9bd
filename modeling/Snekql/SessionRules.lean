import Snekql.Sessions

/-!
# What obedient sessions guarantee

The rules are about what a session sees: its switch, and while it holds the lock, the committed
database and its transaction. No other session can change any of that. So a session whose routine
obeys the rules now obeys them after any step of the others, and one step lemma covers all
interleavings.
-/

namespace Snekql.Sessions

open Snekql.Programs

variable {Database Stop Result Operation : Type}

/-- What a session can rely on: the committed database and its transaction if it holds the lock,
and its switch. -/
structure View (Database : Type) where
  held : Option (Database × Option Database)
  enforcing : Bool

def Connection.seen (connection : Connection Database) : View Database :=
  { held := connection.held.map (fun transaction => (connection.committed, transaction))
    enforcing := connection.enforcing }

def State.view (state : State Database Stop Result) (index : Nat)
    (session : Session Database Stop Result) : View Database :=
  (state.connection index session).seen

/-- A call is allowed if it changes the committed database only as guaranteed. The answers are
those a session survives. -/
def rules (locking : Locking) (guarantee : Call Database → Database → Database → Prop) :
    Rules (Call Database) (Reply Database) (View Database) where
  allowed request view :=
    ∀ connection after : Connection Database, connection.seen = view →
      connection.perform locking request = some after →
      after.committed = connection.committed ∨
        guarantee request connection.committed after.committed
  answers request view reply after :=
    match request with
    | .discard => False
    | .alive => after = view ∧ ∃ database, reply = .returned database
    | request =>
      ∃ connection next : Connection Database, connection.seen = view ∧ next.seen = after ∧
        ((connection.perform locking request = some next ∧ reply = .returned next.database) ∨
          ∃ effect, connection.affect locking request effect = some next ∧ reply = .raised)

/-- The call goes to the driver. -/
def Call.ordinary : Call Database → Bool
  | .alive => false
  | .discard => false
  | _ => true

theorem answers_ordinary {locking : Locking}
    {guarantee : Call Database → Database → Database → Prop} {request : Call Database}
    (ordinary : request.ordinary = true) {view after : View Database} {reply : Reply Database} :
    (rules locking guarantee).answers request view reply after ↔
      ∃ connection next : Connection Database, connection.seen = view ∧ next.seen = after ∧
        ((connection.perform locking request = some next ∧ reply = .returned next.database) ∨
          ∃ effect, connection.affect locking request effect = some next ∧ reply = .raised) := by
  cases request <;> first | exact Iff.rfl | cases ordinary

section Effects

variable {locking : Locking} {connection after : Connection Database} {request : Call Database}

/-- Who neither holds the lock nor finds it free changes nothing and gets nothing. -/
theorem perform_excluded (performed : connection.perform locking request = some after)
    (taken : connection.free = false) (without : connection.held = none) :
    after.committed = connection.committed ∧ after.held = none := by
  cases request <;> cases locking <;>
    simp only [Connection.perform, without, taken, Bool.false_eq_true, if_false,
      Option.some.injEq, reduceCtorEq] at performed <;>
    subst performed <;> exact ⟨rfl, by first | exact without | rfl⟩

/-- Only a commit and a write reach the committed database. -/
theorem perform_committed (notCommit : request ≠ .commit)
    (notWrite : ∀ schema update, request ≠ .write schema update)
    (performed : connection.perform locking request = some after) :
    after.committed = connection.committed := by
  cases request with
  | commit => exact absurd rfl notCommit
  | write schema update => exact absurd rfl (notWrite schema update)
  | _ =>
    simp only [Connection.perform] at performed
    first
    | (cases performed; rfl)
    | (split at performed <;> first | (cases performed; rfl) | cases performed |
        (split at performed <;> first | (cases performed; rfl) | cases performed))

theorem rollback_committed (performed : connection.perform locking .rollback = some after) :
    after.committed = connection.committed :=
  perform_committed (by nofun) (by nofun) performed

theorem affect_excluded {effect : Effect}
    (affected : connection.affect locking request effect = some after)
    (taken : connection.free = false) (without : connection.held = none) :
    after.committed = connection.committed ∧ after.held = none := by
  cases effect with
  | nothing =>
    cases affected
    exact ⟨rfl, without⟩
  | happened => exact perform_excluded affected taken without
  | rolledBack =>
    have performed : connection.perform locking .rollback = some after := affected
    exact perform_excluded performed taken without

/-- Only `enforce` turns the switch. -/
theorem perform_enforcing (quiet : ∀ on, request ≠ .enforce on)
    (performed : connection.perform locking request = some after) :
    after.enforcing = connection.enforcing := by
  cases request with
  | enforce on => exact absurd rfl (quiet on)
  | write schema update =>
    simp only [Connection.perform] at performed
    split at performed
    · obtain ⟨written, -, rfl⟩ := Option.map_eq_some_iff.mp performed
      split <;> rfl
    · obtain ⟨written, -, rfl⟩ := Option.map_eq_some_iff.mp performed
      rfl
    · split at performed
      · obtain ⟨written, -, rfl⟩ := Option.map_eq_some_iff.mp performed
        rfl
      · cases performed
  | _ =>
    simp only [Connection.perform] at performed
    first
    | (cases performed; rfl)
    | (split at performed <;> first | (cases performed; rfl) | cases performed |
        (split at performed <;> first | (cases performed; rfl) | cases performed))

/-- Where the lock is the transaction, nobody holds one without the other. -/
theorem perform_bound (bound : connection.held ≠ some none)
    (performed : connection.perform .transactional request = some after) :
    after.held ≠ some none := by
  cases request with
  | write schema update =>
    simp only [Connection.perform] at performed
    split at performed
    · obtain ⟨written, -, rfl⟩ := Option.map_eq_some_iff.mp performed
      split
      · rename_i advisory
        simp at advisory
      · nofun
    · rename_i held
      exact absurd held bound
    · rename_i held
      split at performed
      · obtain ⟨written, -, rfl⟩ := Option.map_eq_some_iff.mp performed
        exact bound
      · cases performed
  | begin =>
    simp only [Connection.perform] at performed
    cases performed
  | lock =>
    simp only [Connection.perform] at performed
    split at performed
    · split at performed
      · cases performed
        nofun
      · cases performed
    · rename_i locking
      cases locking
    · cases performed
    · rename_i locking
      cases locking
  | _ =>
    simp only [Connection.perform] at performed
    first
    | (cases performed; exact bound)
    | (split at performed <;> cases performed <;> first | exact bound | nofun)

theorem affect_bound {effect : Effect} (bound : connection.held ≠ some none)
    (affected : connection.affect .transactional request effect = some after) :
    after.held ≠ some none := by
  cases effect with
  | nothing =>
    cases affected
    exact bound
  | happened => exact perform_bound bound affected
  | rolledBack =>
    have performed : connection.perform .transactional .rollback = some after := affected
    exact perform_bound bound performed

theorem affect_enforcing {effect : Effect} (quiet : ∀ on, request ≠ .enforce on)
    (affected : connection.affect locking request effect = some after) :
    after.enforcing = connection.enforcing := by
  cases effect with
  | nothing =>
    cases affected
    rfl
  | happened => exact perform_enforcing quiet affected
  | rolledBack =>
    have calm : ∀ on, (Call.rollback : Call Database) ≠ .enforce on := nofun
    exact perform_enforcing calm affected

end Effects

namespace State

variable {state : State Database Stop Result} {index other : Nat}
  {connection : Connection Database} {session changed : Session Database Stop Result}

/-- The session itself sees what became of its connection. -/
theorem put_view_self (switch : changed.enforcing = connection.enforcing) :
    (state.put index connection session).view index changed = connection.seen := by
  have holds : (state.put index connection session).held index = connection.held := by
    unfold State.put State.held
    cases held : connection.held with
    | some transaction => simp
    | none =>
      cases lock : state.lock with
      | none => simp
      | some holder =>
        obtain ⟨owner, transaction⟩ := holder
        by_cases same : owner = index <;> simp [same]
  simp only [State.view, State.connection, Connection.seen, holds, switch]
  rfl

/-- Another session sees what it saw before, if it did not hold the lock or the connection was
kept out. -/
theorem put_view_other (different : index ≠ other)
    (excluded : (state.held other).isSome →
      connection.committed = state.committed ∧ connection.held = none)
    (changed : Session Database Stop Result) :
    (state.put index connection session).view other changed = state.view other changed := by
  cases held : state.held other with
  | some transaction =>
    obtain ⟨same, without⟩ := excluded (by rw [held]; rfl)
    have mine : state.lock = some (other, transaction) := by
      unfold State.held at held
      split at held
      · rename_i owner found lock
        by_cases same : owner = other
        · rw [if_pos same] at held
          cases held
          rw [lock, same]
        · rw [if_neg same] at held
          cases held
      · cases held
    have still : (state.put index connection session).held other = some transaction := by
      simp [State.put, State.held, without, mine, Ne.symm different]
    simp only [State.view, State.connection, Connection.seen, held, still]
    simp only [State.put, same]
  | none =>
    have still : (state.put index connection session).held other = none := by
      unfold State.put
      cases own : connection.held with
      | some transaction => simp [State.held, different]
      | none =>
        by_cases mine : (state.held index).isSome
        · simp only [mine, if_true]
          rfl
        · simp only [mine, Bool.false_eq_true, if_false]
          exact held
    simp only [State.view, State.connection, Connection.seen, held, still, Option.map_none]

end State

section Invariant

variable {locking : Locking} {guarantee : Call Database → Database → Database → Prop}
  {settled : View Database → Prop}
  {program : Operation → Routine (Call Database) (Reply Database) Stop Result}

/-- A living session obeys the rules or has settled, and what a dead one left behind is
allowed. -/
structure Session.Upheld (locking : Locking)
    (guarantee : Call Database → Database → Database → Prop) (settled : View Database → Prop)
    (view : View Database) (session : Session Database Stop Result) : Prop where
  obedient : session.alive = true → ∀ routine, session.work = some routine →
    Obeys (rules locking guarantee) routine (fun _ => settled) view
  idle : session.alive = true → session.work = none → settled view
  abandoned : ∀ request, session.pending = some request →
    session.alive = false ∧ (rules locking guarantee).allowed request view

structure Invariant (locking : Locking) (guarantee : Call Database → Database → Database → Prop)
    (settled : View Database → Prop) (state : State Database Stop Result) : Prop where
  owned : ∀ index transaction, state.lock = some (index, transaction) →
    index < state.sessions.length
  upheld : ∀ index (session : Session Database Stop Result),
    state.sessions[index]? = some session →
      session.Upheld locking guarantee settled (state.view index session)

theorem initial_holds (database : Database) :
    Invariant locking guarantee settled (initial database : State Database Stop Result) :=
  ⟨nofun, nofun⟩

variable {state after : State Database Stop Result} {index : Nat}
  {session changed : Session Database Stop Result} {connection : Connection Database}

/-- While another session holds the lock, this one has nothing and finds the lock taken. -/
theorem connection_excluded {other : Nat} (different : index ≠ other)
    (holds : (state.held other).isSome) (session : Session Database Stop Result) :
    (state.connection index session).free = false ∧
      (state.connection index session).held = none := by
  unfold State.connection
  unfold State.held at holds ⊢
  cases lock : state.lock with
  | none => simp [lock] at holds
  | some holder =>
    obtain ⟨owner, transaction⟩ := holder
    by_cases same : owner = other
    · subst same
      simp [Ne.symm different]
    · simp [lock, same] at holds

/-- A session goes on with what became of its connection. -/
theorem put_holds (invariant : Invariant locking guarantee settled state)
    (current : state.sessions[index]? = some session)
    (excluded : ∀ other, index ≠ other → (state.held other).isSome →
      connection.committed = state.committed ∧ connection.held = none)
    (own : Session.Upheld locking guarantee settled connection.seen
      { changed with enforcing := connection.enforcing }) :
    Invariant locking guarantee settled (state.put index connection changed) := by
  have inside : index < state.sessions.length := (List.getElem?_eq_some_iff.mp current).1
  constructor
  · intro owner transaction lock
    simp only [State.put, List.length_set] at lock ⊢
    split at lock
    · cases lock
      exact inside
    · split at lock
      · cases lock
      · exact invariant.owned owner transaction lock
  · intro other found listed
    by_cases same : index = other
    · subst same
      simp only [State.put, List.getElem?_set_self inside, Option.some.injEq] at listed
      subst listed
      rw [State.put_view_self rfl]
      exact own
    · have before : state.sessions[other]? = some found := by
        simpa only [State.put, List.getElem?_set_ne same] using listed
      rw [State.put_view_other same (excluded other same)]
      exact invariant.upheld other found before

/-- A session changes without touching its connection. -/
theorem set_holds (invariant : Invariant locking guarantee settled state)
    (current : state.sessions[index]? = some session)
    (switch : changed.enforcing = session.enforcing)
    (own : changed.Upheld locking guarantee settled (state.view index session)) :
    Invariant locking guarantee settled { state with
      sessions := state.sessions.set index changed } := by
  have inside : index < state.sessions.length := (List.getElem?_eq_some_iff.mp current).1
  constructor
  · intro owner transaction lock
    rw [List.length_set]
    exact invariant.owned owner transaction lock
  · intro other found listed
    by_cases same : index = other
    · subst same
      simp only [List.getElem?_set_self inside, Option.some.injEq] at listed
      subst listed
      have unchanged : State.view { state with sessions := state.sessions.set index changed }
          index changed = state.view index session := by
        simp only [State.view, State.connection, State.held, Connection.seen, switch]
      rw [unchanged]
      exact own
    · rw [List.getElem?_set_ne same] at listed
      exact invariant.upheld other found listed

/-- The connection stays as it is and the session goes on. -/
theorem stay_holds (invariant : Invariant locking guarantee settled state)
    (current : state.sessions[index]? = some session)
    (switch : changed.enforcing = session.enforcing)
    (own : changed.Upheld locking guarantee settled (state.view index session)) :
    Invariant locking guarantee settled
      (state.put index (state.connection index session) changed) := by
  refine put_holds invariant current (fun other different holds => ?_) ?_
  · exact ⟨rfl, (connection_excluded different holds session).2⟩
  · have same : { changed with enforcing := (state.connection index session).enforcing } =
        changed := by
      rw [State.connection, ← switch]
    rw [same]
    exact own

/-- A call of a living session to the driver. -/
theorem answer_holds (invariant : Invariant locking guarantee settled state)
    (current : state.sessions[index]? = some session) (alive : session.alive = true)
    {request : Call Database} (ordinary : request.ordinary = true)
    {next : Reply Database → Routine (Call Database) (Reply Database) Stop Result}
    (working : session.work = some (.call request next)) {outcome : Outcome}
    (answered : answer locking state index session request next outcome = some after) :
    Invariant locking guarantee settled after ∧
      (after.committed = state.committed ∨
        guarantee request state.committed after.committed) := by
  have upheld := invariant.upheld index session current
  obtain ⟨allowed, obeys⟩ := upheld.obedient alive _ working
  have nothing (found : Call Database) : session.pending ≠ some found := by
    intro pending
    have dead := (upheld.abandoned found pending).1
    rw [alive] at dead
    cases dead
  cases outcome with
  | returned =>
    simp only [answer, Option.map_eq_some_iff] at answered
    obtain ⟨connection, performed, rfl⟩ := answered
    refine ⟨put_holds invariant current (fun other different holds => ?_) ⟨?_, ?_, ?_⟩, ?_⟩
    · obtain ⟨taken, without⟩ := connection_excluded different holds session
      exact perform_excluded performed taken without
    · intro _ routine started
      cases started
      exact obeys _ _ ((answers_ordinary ordinary).mpr
        ⟨_, connection, rfl, rfl, Or.inl ⟨performed, rfl⟩⟩)
    · intro _ idle
      cases idle
    · intro found pending
      exact absurd pending (nothing found)
    · exact allowed _ _ rfl performed
  | raised effect =>
    simp only [answer, Option.map_eq_some_iff] at answered
    obtain ⟨connection, affected, rfl⟩ := answered
    refine ⟨put_holds invariant current (fun other different holds => ?_) ⟨?_, ?_, ?_⟩, ?_⟩
    · obtain ⟨taken, without⟩ := connection_excluded different holds session
      exact affect_excluded affected taken without
    · intro _ routine started
      cases started
      exact obeys _ _ ((answers_ordinary ordinary).mpr
        ⟨_, connection, rfl, rfl, Or.inr ⟨effect, affected, rfl⟩⟩)
    · intro _ idle
      cases idle
    · intro found pending
      exact absurd pending (nothing found)
    · cases effect with
      | nothing =>
        cases affected
        exact Or.inl rfl
      | happened => exact allowed _ _ rfl affected
      | rolledBack => exact Or.inl (rollback_committed affected)
  | abandoned cancelled =>
    cases answered
    refine ⟨stay_holds invariant current rfl ⟨nofun, nofun, ?_⟩, Or.inl rfl⟩
    intro found pending
    cases pending
    exact ⟨rfl, allowed⟩

theorem serve_ordinary (alive : session.alive = true) {request : Call Database}
    (ordinary : request.ordinary = true)
    {next : Reply Database → Routine (Call Database) (Reply Database) Stop Result}
    {outcome : Outcome} :
    serve locking state index session request next outcome =
      answer locking state index session request next outcome := by
  cases request <;> first | (simp only [serve, alive]; done) | cases ordinary

theorem serve_dead (locking : Locking) (dead : session.alive = false) (request : Call Database)
    (next : Reply Database → Routine (Call Database) (Reply Database) Stop Result)
    (outcome : Outcome) :
    ∃ reply, serve locking state index session request next outcome =
      some (state.put index (state.connection index session)
        { session with alive := false, work := some (next reply) }) := by
  cases request <;> exact ⟨_, by unfold serve; rw [dead]⟩

theorem serve_holds (invariant : Invariant locking guarantee settled state)
    (current : state.sessions[index]? = some session) {request : Call Database}
    {next : Reply Database → Routine (Call Database) (Reply Database) Stop Result}
    (working : session.work = some (.call request next)) {outcome : Outcome}
    (served : serve locking state index session request next outcome = some after) :
    Invariant locking guarantee settled after ∧
      (after.committed = state.committed ∨
        session.alive = true ∧ guarantee request state.committed after.committed) := by
  have upheld := invariant.upheld index session current
  -- A reply to a session that is dead now obliges it to nothing more.
  have dead (reply : Reply Database)
      (replied : after = state.put index (state.connection index session)
        { session with alive := false, work := some (next reply) }) :
      Invariant locking guarantee settled after ∧
        (after.committed = state.committed ∨
          session.alive = true ∧ guarantee request state.committed after.committed) := by
    rw [replied]
    refine ⟨stay_holds invariant current rfl ⟨nofun, nofun, ?_⟩, Or.inl rfl⟩
    intro found pending
    exact ⟨rfl, (upheld.abandoned found pending).2⟩
  by_cases alive : session.alive = true
  · by_cases ordinary : request.ordinary = true
    · rw [serve_ordinary alive ordinary] at served
      obtain ⟨holds, changes⟩ := answer_holds invariant current alive ordinary working served
      exact ⟨holds, changes.imp id (fun guaranteed => ⟨alive, guaranteed⟩)⟩
    · cases request with
      | discard => exact dead _ (Option.some.inj served).symm
      | alive =>
        simp only [serve, alive, Option.some.injEq] at served
        subst served
        obtain ⟨-, obeys⟩ := upheld.obedient alive _ working
        refine ⟨stay_holds invariant current rfl ⟨?_, ?_, ?_⟩, Or.inl rfl⟩
        · intro _ routine started
          cases started
          exact obeys _ _ ⟨rfl, _, rfl⟩
        · intro _ idle
          cases idle
        · intro found pending
          have abandoned := upheld.abandoned found pending
          rw [alive] at abandoned
          exact absurd abandoned.1 (by decide)
      | _ => exact absurd rfl ordinary
  · obtain ⟨reply, replied⟩ :=
      serve_dead locking (Bool.eq_false_iff.mpr alive) request next outcome
    exact dead reply (Option.some.inj (served.symm.trans replied))

/-- Only a session holds the lock. -/
theorem held_beyond (invariant : Invariant locking guarantee settled state)
    (beyond : state.sessions.length ≤ index) : state.held index = none := by
  unfold State.held
  split
  · rename_i owner transaction lock
    have inside := invariant.owned owner transaction lock
    exact if_neg (by omega)
  · rfl

/-- The call that an event lets happen. -/
def State.requested (state : State Database Stop Result) :
    Event Operation → Option (Call Database)
  | .call index _ =>
    match state.sessions[index]? with
    | some session =>
      match session.alive, session.work with
      | true, some (.call request _) => some request
      | _, _ => none
    | none => none
  | .late index => (state.sessions[index]?).bind Session.pending
  | _ => none

/-- One step keeps the invariant, and the committed database changes only by a call that
guarantees the change. -/
theorem step_holds
    (obedient : ∀ operation view, settled view →
      Obeys (rules locking guarantee) (program operation) (fun _ => settled) view)
    (fresh : settled { held := none, enforcing := true })
    (invariant : Invariant locking guarantee settled state) {event : Event Operation}
    (stepped : step locking program state event = some after) :
    Invariant locking guarantee settled after ∧
      (after.committed = state.committed ∨
        ∃ request, state.requested event = some request ∧
          guarantee request state.committed after.committed) := by
  cases event <;> simp only [step] at stepped
  case connect =>
    cases stepped
    refine ⟨⟨?_, ?_⟩, Or.inl rfl⟩
    · intro owner transaction lock
      rw [List.length_append, List.length_singleton]
      exact Nat.lt_succ_of_lt (invariant.owned owner transaction lock)
    · intro other found listed
      rcases Nat.lt_or_ge other state.sessions.length with inside | beyond
      · rw [List.getElem?_append_left inside] at listed
        exact invariant.upheld other found listed
      · rw [List.getElem?_append_right beyond] at listed
        cases position : other - state.sessions.length with
        | succ more => simp [position] at listed
        | zero =>
          rw [position] at listed
          cases listed
          refine ⟨nofun, fun _ _ => ?_, nofun⟩
          have view : State.view { state with
              sessions := state.sessions ++
                [{ alive := true, enforcing := true, pending := none, work := none }] } other
                { alive := true, enforcing := true, pending := none, work := none } =
              { held := none, enforcing := true } := by
            show View.mk ((state.held other).map _) true = _
            rw [held_beyond invariant beyond]
            rfl
          exact view ▸ fresh
  case start index operation =>
    split at stepped
    · rename_i session current
      split at stepped
      · rename_i alive idle
        cases stepped
        have upheld := invariant.upheld index session current
        refine ⟨set_holds invariant current rfl ⟨?_, nofun, upheld.abandoned⟩, Or.inl rfl⟩
        intro _ routine started
        cases started
        exact obedient operation _ (upheld.idle alive idle)
      · cases stepped
    · cases stepped
  case call index outcome =>
    split at stepped
    · rename_i session current
      split at stepped
      · rename_i request next working
        obtain ⟨holds, changes⟩ := serve_holds invariant current working stepped
        refine ⟨holds, changes.imp id (fun guaranteed => ⟨request, ?_, guaranteed.2⟩)⟩
        simp only [State.requested, current, guaranteed.1, working]
      · cases stepped
    · cases stepped
  case late index =>
    split at stepped
    · rename_i session current
      split at stepped
      · rename_i request pending
        rw [Option.map_eq_some_iff] at stepped
        obtain ⟨connection, performed, rfl⟩ := stepped
        obtain ⟨dead, allowed⟩ := (invariant.upheld index session current).abandoned _ pending
        refine ⟨put_holds invariant current (fun other different holds => ?_) ⟨?_, ?_, nofun⟩,
          (allowed _ _ rfl performed).imp id (fun guaranteed => ⟨request, ?_, guaranteed⟩)⟩
        · obtain ⟨taken, without⟩ := connection_excluded different holds session
          exact perform_excluded performed taken without
        · intro alive
          exact absurd (dead.symm.trans alive) (by decide)
        · intro alive
          exact absurd (dead.symm.trans alive) (by decide)
        · simp only [State.requested, current, Option.bind_some, pending]
      · cases stepped
    · cases stepped
  case finish index =>
    split at stepped
    · rename_i session current
      have upheld := invariant.upheld index session current
      split at stepped
      · cases stepped
      · rename_i routine ended working
        cases stepped
        refine ⟨set_holds invariant current rfl ⟨nofun, fun alive _ => ?_, upheld.abandoned⟩,
          Or.inl rfl⟩
        have obeys := upheld.obedient alive routine working
        cases routine with
        | ret | raise => exact obeys
        | call request next => exact absurd rfl (ended request next)
      · cases stepped
    · cases stepped
  case discard index =>
    split at stepped
    · rename_i session current
      cases stepped
      have upheld := invariant.upheld index session current
      exact ⟨set_holds invariant current rfl
        ⟨nofun, nofun, fun request pending => ⟨rfl, (upheld.abandoned request pending).2⟩⟩,
        Or.inl rfl⟩
    · cases stepped
  case disconnect index =>
    split at stepped
    · rename_i session current
      split at stepped
      · cases stepped
      · rename_i dead
        cases stepped
        refine ⟨put_holds invariant current (fun other different holds => ⟨rfl, rfl⟩)
          ⟨fun alive => absurd alive dead, fun alive => absurd alive dead, nofun⟩, Or.inl rfl⟩
    · cases stepped

/-- If every routine obeys the rules and every guaranteed change keeps a property of the committed
database, then every run keeps it, and the invariant. -/
theorem run_holds
    (obedient : ∀ operation view, settled view →
      Obeys (rules locking guarantee) (program operation) (fun _ => settled) view)
    (fresh : settled { held := none, enforcing := true }) {kept : Database → Prop}
    (keeps : ∀ request before after, kept before → guarantee request before after → kept after)
    {database : Database} (start : kept database) {events : List (Event Operation)}
    (ran : Runs.run (step locking program) (initial database) events = some state) :
    Invariant locking guarantee settled state ∧ kept state.committed := by
  refine Runs.run_invariant
    (fun state => Invariant locking guarantee settled state ∧ kept state.committed)
    ?_ ⟨initial_holds database, start⟩ ran
  rintro before event after ⟨invariant, holds⟩ stepped
  obtain ⟨next, same | ⟨request, -, guaranteed⟩⟩ := step_holds obedient fresh invariant stepped
  · exact ⟨next, same.symm ▸ holds⟩
  · exact ⟨next, keeps request _ _ holds guaranteed⟩

end Invariant

end Snekql.Sessions
