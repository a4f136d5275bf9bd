import Snekql.LeaseAccounting

/-!
# Who has the transaction

Whoever works on the connection holds the lock, and the transaction still has the
connection. A task that leaves a nested scope owns the scopes and leaves the innermost one:
between its check and its turn nobody else can have changed the stack, since the scopes are
reserved for it and the closing task of another would have been refused. The closing task
works only on a transaction that is closed for everybody else.
-/

namespace Snekql.SharedTransaction

open Snekql.Transaction

/-- The scope that a task is leaving. -/
def Phase.leaves : Phase → Option Nat
  | .waiting (.exitNested name _) => some name
  | .undoing name => some name
  | .releasing name => some name
  | _ => none

/-- The exit that a closing task works for, until it has taken the connection. -/
def Closer.awaitedBy : Closer → Option Nat
  | .created owner _ => some owner
  | .waiting owner _ => some owner
  | _ => none

/-- The scope of this name is the innermost one and the scopes are this task's. -/
def Innermost (core : Core) (task name : Nat) : Prop :=
  core.nestedOwner = some task ∧ (core.stack.map Scope.name).head? = some name

/-- A savepoint of this name would be new, and this task may open it. -/
structure FreshName (core : Core) (task name : Nat) : Prop where
  above : ∀ scope ∈ core.stack.map Scope.name, scope < name
  counted : name ≤ core.sequence
  owner : core.nestedOwner = none ∨ core.nestedOwner = some task

structure Custody (state : State) : Prop where
  lockHeld : ∀ task, (state.tasks task).working = true → state.lock = some (.task task)
  closerHolds : state.closer.engaged = true → state.lock = some .closer
  leased : ∀ task, (state.tasks task).working = true → state.core.connection.isSome
  taken : state.core.closed = true → state.core.connection = none
  shut : state.closer.engaged = true → state.core.closed = true
  owned : state.core.nestedOwner = none ↔ state.core.stack.map Scope.name = []
  leaving : ∀ task name, (state.tasks task).leaves = some name → Innermost state.core task name
  exiting : ∀ task, state.closer.awaitedBy = some task → state.tasks task = .exiting
  entering : ∀ task stage, state.entrance = some (task, stage) → state.tasks task = .entering
  bounded : ∀ scope ∈ state.core.stack.map Scope.name, scope ≤ state.core.sequence
  saving : ∀ task name, state.tasks task = .saving name → FreshName state.core task name

theorem initial_custody : Custody initial where
  lockHeld := by intro task working; cases working
  closerHolds := by intro engaged; cases engaged
  leased := by intro task working; cases working
  taken := fun _ => rfl
  shut := by intro engaged; cases engaged
  owned := ⟨fun _ => rfl, fun _ => rfl⟩
  leaving := by intro task name leaves; cases leaves
  exiting := by intro task awaited; cases awaited
  entering := by intro task stage entering; cases entering
  bounded := by intro scope member; cases member
  saving := by intro task name saving; cases saving

variable {task name : Nat} {phase : Phase} {state next : State}

theorem ne_exiting_of_working (working : phase.working = true) : phase ≠ .exiting := by
  rintro rfl
  cases working

theorem ne_entering_of_working (working : phase.working = true) : phase ≠ .entering := by
  rintro rfl
  cases working

namespace Custody

variable {state : State}

/-- Only one task works at a time. -/
theorem exclusive (custody : Custody state) {other : Nat}
    (working : (state.tasks task).working = true)
    (otherWorking : (state.tasks other).working = true) : other = task := by
  have held := custody.lockHeld task working
  rw [custody.lockHeld other otherWorking] at held
  simpa using held

/-- What a new phase of one task has to bring along. -/
structure Fits (state : State) (task : Nat) (phase : Phase) : Prop where
  works : phase.working = true →
    state.lock = some (.task task) ∧ state.core.connection.isSome
  leaves : ∀ name, phase.leaves = some name → Innermost state.core task name
  saves : ∀ name, phase = .saving name → FreshName state.core task name
  awaited : state.closer.awaitedBy ≠ some task
  outside : ∀ stage, state.entrance ≠ some (task, stage)

theorem setTask (custody : Custody state) (fits : Fits state task phase) :
    Custody (state.setTask task phase) :=
  { custody with
    lockHeld := by
      intro other working
      by_cases same : other = task
      · subst same
        exact (fits.works (by simpa [State.setTask] using working)).1
      · exact custody.lockHeld other (by simpa [State.setTask, same] using working)
    leased := by
      intro other working
      by_cases same : other = task
      · subst same
        exact (fits.works (by simpa [State.setTask] using working)).2
      · exact custody.leased other (by simpa [State.setTask, same] using working)
    leaving := by
      intro other name leaves
      by_cases same : other = task
      · subst same
        exact fits.leaves name (by simpa [State.setTask] using leaves)
      · exact custody.leaving other name (by simpa [State.setTask, same] using leaves)
    exiting := by
      intro other awaited
      have different : other ≠ task := fun same => fits.awaited (same ▸ awaited)
      have before := custody.exiting other awaited
      simpa [State.setTask, different] using before
    entering := by
      intro other stage entering
      have different : other ≠ task := fun same => fits.outside stage (same ▸ entering)
      have before := custody.entering other stage entering
      simpa [State.setTask, different] using before
    saving := by
      intro other name saving
      by_cases same : other = task
      · subst same
        exact fits.saves name (by simpa [State.setTask] using saving)
      · exact custody.saving other name (by simpa [State.setTask, same] using saving) }

/-- The closing task does not work for a task that is in another phase. -/
theorem unawaited (custody : Custody state) (busy : state.tasks task ≠ .exiting) :
    state.closer.awaitedBy ≠ some task :=
  fun awaited => busy (custody.exiting task awaited)

/-- The entry in progress is not that of a task in another phase. -/
theorem unentered (custody : Custody state) (busy : state.tasks task ≠ .entering) (stage : Entrance)
    :
    state.entrance ≠ some (task, stage) :=
  fun entering => busy (custody.entering task stage entering)

/-- A phase without the lock and outside every scope fits always. -/
theorem fits_of_resting (resting : phase.working = false) (unscoped : phase.leaves = none)
    (awaited : state.closer.awaitedBy ≠ some task)
    (outside : ∀ stage, state.entrance ≠ some (task, stage)) :
    Fits state task phase where
  works := by
    intro working
    rw [resting] at working
    cases working
  leaves := by
    intro name leaves
    rw [unscoped] at leaves
    cases leaves
  saves := by
    rintro name rfl
    cases resting
  awaited := awaited
  outside := outside

/-- A query or a stream fits when the lock and the connection are there. -/
theorem fits_of_operating (operating : phase.operating = true)
    (held : state.lock = some (.task task)) (leased : state.core.connection.isSome)
    (awaited : state.closer.awaitedBy ≠ some task)
    (outside : ∀ stage, state.entrance ≠ some (task, stage)) :
    Fits state task phase where
  works := fun _ => ⟨held, leased⟩
  leaves := by
    intro name leaves
    cases phase <;> simp_all [Phase.operating, Phase.leaves]
  saves := by
    rintro name rfl
    cases operating
  awaited := awaited
  outside := outside

section

variable (custody : Custody state)
include custody

/-- A task that returns from a call. -/
theorem idle (awaited : state.closer.awaitedBy ≠ some task)
    (outside : ∀ stage, state.entrance ≠ some (task, stage)) : Custody (state.setTask task .idle) :=
  custody.setTask (fits_of_resting rfl rfl awaited outside)

/-- What the custody does not look at may change. -/
theorem congr (lock : next.lock = state.lock) (tasks : next.tasks = state.tasks)
    (closer : next.closer = state.closer) (entrance : next.entrance = state.entrance)
    (connection : next.core.connection = state.core.connection)
    (closed : next.core.closed = state.core.closed)
    (owner : next.core.nestedOwner = state.core.nestedOwner)
    (names : next.core.stack.map Scope.name = state.core.stack.map Scope.name)
    (sequence : next.core.sequence = state.core.sequence) : Custody next where
  lockHeld := by rw [tasks, lock]; exact custody.lockHeld
  closerHolds := by rw [closer, lock]; exact custody.closerHolds
  leased := by rw [tasks, connection]; exact custody.leased
  taken := by rw [closed, connection]; exact custody.taken
  shut := by rw [closer, closed]; exact custody.shut
  owned := by rw [owner, names]; exact custody.owned
  leaving := by
    intro task name leaves
    rw [tasks] at leaves
    have innermost := custody.leaving task name leaves
    exact ⟨owner.trans innermost.1, names ▸ innermost.2⟩
  exiting := by rw [closer, tasks]; exact custody.exiting
  entering := by rw [entrance, tasks]; exact custody.entering
  bounded := by rw [names, sequence]; exact custody.bounded
  saving := by
    intro task name saving
    rw [tasks] at saving
    have fresh := custody.saving task name saving
    exact ⟨names ▸ fresh.above, sequence ▸ fresh.counted, owner ▸ fresh.owner⟩

theorem strike (recoverConstraints : Bool) (fault : Fault) :
    Custody (state.strike recoverConstraints fault) := by
  obtain ⟨connection, closed⟩ := state.core.settle_lease recoverConstraints fault
  obtain ⟨names, sequence⟩ := state.core.settle_names recoverConstraints fault
  exact custody.congr rfl rfl rfl rfl connection closed
    (state.core.settle_owner recoverConstraints fault) names sequence

theorem distrust : Custody state.distrust :=
  custody.congr rfl rfl rfl rfl rfl rfl rfl rfl rfl

theorem record (entry : Entry) : Custody (state.record entry) :=
  custody.congr rfl rfl rfl rfl rfl rfl rfl rfl rfl

/-- The lock may be handed on when nobody works. -/
theorem unlock (quiet : ∀ task, (state.tasks task).working = false)
    (disengaged : state.closer.engaged = false) : Custody state.unlock :=
  { custody with
    lockHeld := by
      intro task working
      have still : (state.tasks task).working = true := working
      rw [quiet task] at still
      cases still
    closerHolds := by
      intro engaged
      have still : state.closer.engaged = true := engaged
      rw [disengaged] at still
      cases still }

theorem request (party : Party) : Custody (state.request party) := by
  unfold State.request
  split
  · next free =>
    have unlocked : state.lock = none := by simp_all
    refine ⟨?_, ?_, custody.leased, custody.taken, custody.shut, custody.owned, custody.leaving,
      custody.exiting, custody.entering, custody.bounded, custody.saving⟩
    · intro task working
      have held := custody.lockHeld task working
      rw [unlocked] at held
      cases held
    · intro engaged
      have held := custody.closerHolds engaged
      rw [unlocked] at held
      cases held
  · exact custody.congr rfl rfl rfl rfl rfl rfl rfl rfl rfl

/-- A party that waited for the lock gives up, also after the lock was handed to it. -/
theorem withdraw (party : Party)
    (resting : ∀ task, party = .task task → (state.tasks task).working = false)
    (unengaged : party = .closer → state.closer.engaged = false) :
    Custody (state.withdraw party) := by
  unfold State.withdraw
  split
  · next held =>
    apply custody.unlock
    · intro task
      cases working : (state.tasks task).working with
      | false => rfl
      | true =>
        have same : party = .task task :=
          Option.some.inj (held.symm.trans (custody.lockHeld task working))
        rw [resting task same] at working
        cases working
    · cases engaged : state.closer.engaged with
      | false => rfl
      | true =>
        have same : party = .closer :=
          Option.some.inj (held.symm.trans (custody.closerHolds engaged))
        rw [unengaged same] at engaged
        cases engaged
  · exact custody.congr rfl rfl rfl rfl rfl rfl rfl rfl rfl

/-- The closing task moves on. -/
theorem setCloser {closer : Closer}
    (holds : closer.engaged = true → state.lock = some .closer ∧ state.core.closed = true)
    (awaited : ∀ task, closer.awaitedBy = some task → state.tasks task = .exiting) :
    Custody { state with closer := closer } :=
  { custody with
    closerHolds := fun engaged => (holds engaged).1
    shut := fun engaged => (holds engaged).2
    exiting := awaited }

theorem setEntrance {entrance : Option (Nat × Entrance)}
    (entering : ∀ task stage, entrance = some (task, stage) → state.tasks task = .entering) :
    Custody { state with entrance := entrance } :=
  { custody with
    entering := entering }

/-- A task at rest, with everybody else at rest too, has left the innermost scope. -/
theorem pop (innermost : Innermost state.core task name)
    (unscoped : (state.tasks task).leaves = none)
    (quiet : ∀ other, (state.tasks other).working = false) : Custody { state with core := state.core.pop } :=
  { custody with
    owned := by
      have owner := innermost.1
      simp only [Core.pop, owner, List.isEmpty_iff, List.map_eq_nil_iff]
      split <;> simp_all
    leaving := by
      intro other scope leaves
      have owner := (custody.leaving other scope leaves).1
      rw [innermost.1] at owner
      obtain rfl := Option.some.inj owner
      rw [unscoped] at leaves
      cases leaves
    bounded := by
      intro scope member
      apply custody.bounded scope
      obtain ⟨kept, isKept, rfl⟩ := List.mem_map.mp member
      exact List.mem_map.mpr ⟨kept, List.mem_of_mem_tail isKept, rfl⟩
    saving := by
      intro other scope saving
      have idle := quiet other
      rw [saving] at idle
      cases idle }

/-- A task at rest, with everybody else at rest too, has opened a scope. -/
theorem push (fresh : FreshName state.core task name) (unscoped : (state.tasks task).leaves = none)
    (quiet : ∀ other, (state.tasks other).working = false) : Custody { state with core := state.core.push task name } :=
  { custody with
    owned := by simp [Core.push]
    leaving := by
      intro other scope leaves
      have owner := (custody.leaving other scope leaves).1
      obtain unowned | own := fresh.owner
      · rw [unowned] at owner
        cases owner
      · rw [own] at owner
        obtain rfl := Option.some.inj owner
        rw [unscoped] at leaves
        cases leaves
    bounded := by
      intro scope member
      obtain rfl | older := List.mem_cons.mp member
      · exact fresh.counted
      · exact custody.bounded scope older
    saving := by
      intro other scope saving
      have idle := quiet other
      rw [saving] at idle
      cases idle }

/-- When the task that works comes to rest, nobody works. -/
theorem quiet_of_idle (held : state.lock = some (.task task)) (other : Nat) :
    ((state.setTask task .idle).tasks other).working = false := by
  by_cases same : other = task
  · subst same
    simp [State.setTask, Phase.working, Phase.operating]
  · cases working : (state.tasks other).working with
    | false => simpa [State.setTask, same] using working
    | true =>
      have holder := custody.lockHeld other working
      rw [held] at holder
      exact absurd (Party.task.inj (Option.some.inj holder)).symm same

/-- The closing task has nothing while a task has the lock. -/
theorem disengaged_of_held (held : state.lock = some (.task task)) :
    state.closer.engaged = false := by
  cases engaged : state.closer.engaged with
  | false => rfl
  | true =>
    have holder := custody.closerHolds engaged
    rw [held] at holder
    cases holder

/-- A call that holds the lock returns and hands it on. -/
theorem finish (held : state.lock = some (.task task)) (busy : state.tasks task ≠ .exiting)
    (outside : state.tasks task ≠ .entering) : Custody (state.finish task) :=
  (custody.idle (custody.unawaited busy) (custody.unentered outside)).unlock
    (custody.quiet_of_idle held) (custody.disengaged_of_held held)

/-- A call that has the lock comes to rest with its core changed, and hands the lock on. -/
theorem finishWith {core : Core} {log : List Entry} (held : state.lock = some (.task task))
    (busy : state.tasks task ≠ .exiting) (outside : state.tasks task ≠ .entering) (rested : Custody (state.setTask task .idle) →
      Custody { state.setTask task .idle with core := core }) : Custody (({ state with core := core, log := log }).finish task) := by
  have resting := rested (custody.idle (custody.unawaited busy) (custody.unentered outside))
  have unlocked := resting.unlock (custody.quiet_of_idle held) (custody.disengaged_of_held held)
  exact unlocked.congr rfl rfl rfl rfl rfl rfl rfl rfl rfl

/-- The end of a call that worked. -/
theorem finish_of_working (working : (state.tasks task).working = true) :
    Custody (state.finish task) :=
  custody.finish (custody.lockHeld task working) (ne_exiting_of_working working)
    (ne_entering_of_working working)

/-- A query or a stream goes on. -/
theorem proceed (working : (state.tasks task).working = true) (operating : phase.operating = true) :
    Custody (state.setTask task phase) :=
  custody.setTask (fits_of_operating operating (custody.lockHeld task working)
    (custody.leased task working) (custody.unawaited (ne_exiting_of_working working))
    (custody.unentered (ne_entering_of_working working)))

/-- The innermost scope is left, with whatever is recorded, and the lock is handed on. -/
theorem popAndFinish {log : List Entry} (innermost : Innermost state.core task name)
    (held : state.lock = some (.task task)) (busy : state.tasks task ≠ .exiting)
    (outside : state.tasks task ≠ .entering) : Custody (({ state with core := state.core.pop, log := log }).finish task) := by
  apply custody.finishWith held busy outside
  intro resting
  exact resting.pop innermost (by simp [State.setTask, Phase.leaves])
    (custody.quiet_of_idle held)

end

end Custody

/-- A driver reply keeps the custody. -/
theorem Turn.custody (turn : Turn state task next) (custody : Custody state) : Custody next := by
  induction turn with
  | proceed phase operating after =>
    exact custody.proceed (Phase.working_of_operating operating) after
  | opened raw operating =>
    have proceeded : Custody (State.setTask _ _ (.streaming raw true)) :=
      custody.proceed (Phase.working_of_operating operating) rfl
    exact proceeded.congr rfl rfl rfl rfl rfl rfl rfl rfl rfl
  | stopped operating => exact custody.finish_of_working (Phase.working_of_operating operating)
  | ended operating =>
    have finished := custody.finish_of_working (Phase.working_of_operating operating)
    exact finished.congr rfl rfl rfl rfl rfl rfl rfl rfl rfl
  | distrusted _ _ ih => exact ih custody.distrust
  | struck fault _ _ ih => exact ih (custody.strike true fault)
  | @unsaved before task name fault saving =>
    apply (custody.strike false fault).finish_of_working
    change (before.tasks task).working = true
    rw [saving]
    rfl
  | @undone before task name undoing =>
    have working : (before.tasks task).working = true := by rw [undoing]; rfl
    have innermost := custody.leaving task name (by rw [undoing]; rfl)
    have recorded := custody.record (.rolledBackTo name)
    apply recorded.setTask
    refine ⟨fun _ => ⟨custody.lockHeld task working, custody.leased task working⟩, ?_, ?_,
      custody.unawaited (ne_exiting_of_working working),
      custody.unentered (ne_entering_of_working working)⟩
    · intro other leaves
      obtain rfl := Option.some.inj leaves
      exact innermost
    · intro other saving
      cases saving
  | @left before task name releasing =>
    have working : (before.tasks task).working = true := by rw [releasing]; rfl
    exact custody.popAndFinish (custody.leaving task name (by rw [releasing]; rfl))
      (custody.lockHeld task working) (ne_exiting_of_working working)
      (ne_entering_of_working working)
  | @unleft before task name fault phase =>
    have working : (before.tasks task).working = true := by
      obtain undoing | releasing := phase
      · rw [undoing]; rfl
      · rw [releasing]; rfl
    have leaves : (before.tasks task).leaves = some name := by
      obtain undoing | releasing := phase
      · rw [undoing]; rfl
      · rw [releasing]; rfl
    have struck := custody.strike false fault
    exact struck.popAndFinish (struck.leaving task name leaves) (custody.lockHeld task working)
      (ne_exiting_of_working working) (ne_entering_of_working working)

/-- An admitted call finds the connection, and no scope of another task. -/
theorem admitted_spec (passed : admitted state task = true) :
    state.core.connection.isSome ∧
      (state.core.nestedOwner = none ∨ state.core.nestedOwner = some task) := by
  simp only [admitted, Bool.and_eq_true] at passed
  obtain ⟨owns, required⟩ := passed
  constructor
  · cases result : state.core.requireConnection with
    | error reason =>
      rw [result] at required
      cases required
    | ok lease =>
      obtain ⟨_, held, _⟩ := (state.core.requireConnection_ok_iff lease).mp result
      simp [held]
  · exact state.core.checkNestedOwner_ok_iff task |>.mp (isOk_ok owns)

section

variable (custody : Custody state)
include custody

/-- The next name is counted before anybody else can ask. -/
theorem nextName_custody {work : Work} (waiting : state.tasks task = .waiting work)
    (held : state.lock = some (.task task)) : Custody { state with core := state.core.nextName.1 } :=
  { custody with
    bounded := by
      intro scope member
      exact Nat.le_succ_of_le (custody.bounded scope member)
    saving := by
      intro other name saving
      have working : (state.tasks other).working = true := by rw [saving]; rfl
      have holder := custody.lockHeld other working
      rw [held] at holder
      obtain rfl := Party.task.inj (Option.some.inj holder)
      rw [waiting] at saving
      cases saving }

theorem granted_custody {work : Work} (waiting : state.tasks task = .waiting work)
    (held : state.lock = some (.task task)) (accepted : Bool) :
    Custody (granted state task accepted work) := by
  have busy : state.tasks task ≠ .exiting := by rw [waiting]; simp
  have outside : state.tasks task ≠ .entering := by rw [waiting]; simp
  have finished := custody.finish held busy outside
  have operating {phase : Phase} (isOperating : phase.operating = true)
      (passed : (admitted state task && accepted) = true) :
      Custody (state.setTask task phase) := by
    simp only [Bool.and_eq_true] at passed
    exact custody.setTask (Custody.fits_of_operating isOperating held (admitted_spec passed.1).1
      (custody.unawaited busy) (custody.unentered outside))
  cases work with
  | query | stream =>
    simp only [granted]
    split
    · next passed => exact operating rfl passed
    · exact finished
  | enterNested =>
    simp only [granted]
    split
    · next passed =>
      obtain ⟨leased, owner⟩ := admitted_spec passed
      apply (nextName_custody custody waiting held).setTask
      refine ⟨fun _ => ⟨held, leased⟩, fun name leaves => by simp [Phase.leaves] at leaves, ?_,
        custody.unawaited busy, custody.unentered outside⟩
      intro name saving
      obtain rfl := Phase.saving.inj saving
      exact ⟨fun scope member => Nat.lt_succ_of_le (custody.bounded scope member), Nat.le_refl _,
        owner⟩
    · exact finished
  | exitNested name raised =>
    have innermost := custody.leaving task name (by rw [waiting]; rfl)
    simp only [granted, beginExit]
    split
    · exact custody.popAndFinish innermost held busy outside
    · next usable =>
      have leased : state.core.connection.isSome := by
        simp only [Bool.or_eq_true, not_or, Option.not_isNone] at usable
        simpa [Option.isSome_iff_ne_none] using usable.1.2
      have fits {phase : Phase} (leaves : phase.leaves = some name)
          (unsaving : ∀ scope, phase ≠ .saving scope) : Custody.Fits state task phase := by
        refine ⟨fun _ => ⟨held, leased⟩, ?_, fun scope saving => absurd saving (unsaving scope),
          custody.unawaited busy, custody.unentered outside⟩
        intro scope alsoLeaves
        rw [leaves] at alsoLeaves
        obtain rfl := Option.some.inj alsoLeaves
        exact innermost
      split
      · exact custody.setTask (fits rfl (by simp))
      · exact custody.setTask (fits rfl (by simp))

/-- A savepoint that exists becomes the innermost scope. -/
theorem saved_custody (saving : state.tasks task = .saving name) :
    Custody (saved state task name) := by
  have working : (state.tasks task).working = true := by rw [saving]; rfl
  have held := custody.lockHeld task working
  apply custody.finishWith held (ne_exiting_of_working working) (ne_entering_of_working working)
  intro resting
  exact resting.push (custody.saving task name saving) (by simp [State.setTask, Phase.leaves])
    (custody.quiet_of_idle held)

/-- While the closing task has the lock, nobody works. -/
theorem Custody.quiet_of_closer (held : state.lock = some .closer) (task : Nat) :
    (state.tasks task).working = false := by
  cases working : (state.tasks task).working with
  | false => rfl
  | true =>
    have holder := custody.lockHeld task working
    rw [held] at holder
    cases holder

/-- The closing task takes the connection from a transaction in which nobody works and
nobody leaves a scope: the owner of the scopes is the task that exits. -/
theorem Custody.taken_over {owner : Nat} (held : state.lock = some .closer)
    (exiting : state.tasks owner = .exiting) (owns : state.core.checkNestedOwner owner = .ok ())
    (closer : Closer) (unawaited : closer.awaitedBy = none) : Custody { state with core := state.core.close, closer := closer } where
  lockHeld := custody.lockHeld
  closerHolds := fun _ => held
  leased := by
    intro task working
    have quiet := custody.quiet_of_closer held task
    rw [working] at quiet
    cases quiet
  taken := fun _ => state.core.close_lease.1
  shut := fun _ => state.core.close_lease.2
  owned := by
    unfold Core.close
    split
    · exact custody.owned
    · simp
  leaving := by
    intro task name leaves
    have innermost := custody.leaving task name leaves
    obtain unowned | own := (state.core.checkNestedOwner_ok_iff owner).mp owns
    · have owner := innermost.1
      rw [unowned] at owner
      cases owner
    · obtain rfl : task = owner := Option.some.inj (innermost.1.symm.trans own)
      have unscoped : (state.tasks task).leaves = some name := leaves
      rw [exiting] at unscoped
      cases unscoped
  exiting := by
    intro task awaited
    rw [unawaited] at awaited
    cases awaited
  entering := custody.entering
  bounded := by
    unfold Core.close
    split
    · exact custody.bounded
    · simp
  saving := by
    intro task name saving
    have quiet := custody.quiet_of_closer held task
    have still : state.tasks task = .saving name := saving
    rw [still] at quiet
    cases quiet

theorem close_custody {owner : Nat} {raised : Bool} (waiting : state.closer = .waiting owner raised)
    (held : state.lock = some .closer) : Custody (close state owner raised) := by
  have exiting : state.tasks owner = .exiting := custody.exiting owner (by rw [waiting]; rfl)
  have finished : Custody ({ state with closer := .finished }).unlock := by
    have moved : Custody { state with closer := .finished } :=
      custody.setCloser (fun engaged => by cases engaged) (fun task awaited => by cases awaited)
    exact moved.unlock (custody.quiet_of_closer held) rfl
  unfold close
  split
  · exact finished
  · exact finished
  · next lease owns _ =>
    dsimp only
    split
    · exact (custody.taken_over held exiting owns .returning rfl).congr
        rfl rfl rfl rfl rfl rfl rfl rfl rfl
    · exact (custody.taken_over held exiting owns (.committing lease) rfl).congr
        rfl rfl rfl rfl rfl rfl rfl rfl rfl
    · exact custody.taken_over held exiting owns (.rollingBack lease) rfl

/-- The entry in progress is over, and its task returns. -/
theorem Custody.leaveEntrance {stage : Entrance} (entering : state.entrance = some (task, stage)) :
    Custody (({ state with entrance := none }).setTask task .idle) := by
  have phase := custody.entering task stage entering
  have ended : Custody { state with entrance := none } :=
    custody.setEntrance (fun other stage same => by cases same)
  exact ended.idle (custody.unawaited (by rw [phase]; simp)) (fun stage same => by cases same)

/-- Without a connection nobody works. -/
theorem Custody.quiet_of_vacant (vacant : state.core.connection = none) (task : Nat) :
    (state.tasks task).working = false := by
  cases working : (state.tasks task).working with
  | false => rfl
  | true =>
    have leased := custody.leased task working
    rw [vacant] at leased
    cases leased

/-- The entry gives the transaction its connection. -/
theorem Custody.connect (vacant : state.core.connection = none)
    (unclosed : state.core.closed = false) (lease : Nat) : Custody { state with core := { state.core with connection := some lease } } :=
  { custody with
    leased := fun _ _ => rfl
    taken := by
      intro closed
      have still : state.core.closed = true := closed
      rw [unclosed] at still
      cases still
    saving := by
      intro task name saving
      have quiet := custody.quiet_of_vacant vacant task
      have still : state.tasks task = .saving name := saving
      rw [still] at quiet
      cases quiet }

/-- An entry that failed closes the transaction. -/
theorem Custody.giveUp (vacant : state.core.connection = none) : Custody { state with core := { state.core with reusable := false, closed := true } } :=
  { custody with
    taken := fun _ => vacant
    shut := fun _ => rfl
    saving := by
      intro task name saving
      have fresh := custody.saving task name saving
      exact ⟨fresh.above, fresh.counted, fresh.owner⟩ }

end

theorem begun_custody {lease : Nat} {call : BeginCall} {rest : List BeginCall}
    (accounted : Accounted state) (custody : Custody state)
    (entering : state.entrance = some (task, .beginning lease (call :: rest))) (found : Bool) :
    Custody (begun state task lease call rest found) := by
  obtain ⟨vacant, unclosed⟩ := accounted.vacant (by simp [entering])
  cases rest with
  | nil =>
    have left := (custody.connect vacant unclosed lease).leaveEntrance entering
    cases call <;> exact left.congr rfl rfl rfl rfl rfl rfl rfl rfl rfl
  | cons second rest =>
    have moved : Custody { state with
        entrance := some (task, .beginning lease (second :: rest)) } := by
      apply custody.setEntrance
      intro other stage same
      obtain ⟨rfl, _⟩ := Prod.mk.inj (Option.some.inj same)
      exact custody.entering _ _ entering
    cases call <;> exact moved.congr rfl rfl rfl rfl rfl rfl rfl rfl rfl

/-- The check before the lock finds the scope to leave innermost, and owned by the task. -/
theorem checkAccess_innermost {work : Work} (custody : Custody state)
    (accessible : checkAccess state task work = true)
    (leaves : (Phase.waiting work).leaves = some name) : Innermost state.core task name := by
  cases work with
  | query | stream | enterNested => cases leaves
  | exitNested scope raised =>
    obtain rfl := Option.some.inj leaves
    simp only [checkAccess, Bool.and_eq_true] at accessible
    obtain ⟨⟨owns, _⟩, checked⟩ := accessible
    have top := state.core.checkNestedExit_ok (isOk_ok checked)
    refine ⟨?_, top⟩
    obtain unowned | own := (state.core.checkNestedOwner_ok_iff task).mp (isOk_ok owns)
    · rw [custody.owned.mp unowned] at top
      cases top
    · exact own

theorem awaitedBy_of_engaged {closer : Closer} (engaged : closer.engaged = true) :
    closer.awaitedBy = none := by
  cases closer <;> simp_all [Closer.engaged, Closer.awaitedBy]

theorem answered_custody {config : Config} {answer : Answer} (custody : Custody state)
    (stepped : answered config state state.closer answer = some next) : Custody next := by
  obtain ⟨engaged, after, closing⟩ := answered_shape stepped
  have kept : Custody { next with closer := state.closer } :=
    custody.congr closing.lock closing.tasks rfl closing.entrance closing.connection closing.closed
      closing.owner closing.names closing.sequence
  apply kept.setCloser
  · intro _
    exact ⟨closing.lock.trans (custody.closerHolds engaged),
      closing.closed.trans (custody.shut engaged)⟩
  · intro task awaited
    rw [awaitedBy_of_engaged after] at awaited
    cases awaited

/-- Every step keeps the custody. -/
theorem Move.custody {config : Config} {event : Event} (move : Move config state event next)
    (accounted : Accounted state) (custody : Custody state) : Custody next := by
  cases move with
  | refused => exact custody
  | @entered task idle outside free unclosed =>
    have entering : Custody (state.setTask task .entering) := by
      apply custody.setTask
      exact Custody.fits_of_resting rfl rfl (custody.unawaited (by rw [idle]; simp))
        (fun stage entering => by rw [outside] at entering; cases entering)
    apply entering.setEntrance
    intro other stage same
    obtain ⟨rfl, _⟩ := Prod.mk.inj (Option.some.inj same)
    simp [State.setTask]
  | @acquireFailed task entering => exact custody.leaveEntrance entering
  | @acquired task entering =>
    have moved : Custody { state with
        entrance := some (task, .beginning state.acquired config.beginCalls) } := by
      apply custody.setEntrance
      intro other stage same
      obtain ⟨rfl, _⟩ := Prod.mk.inj (Option.some.inj same)
      exact custody.entering _ _ entering
    exact moved.congr rfl rfl rfl rfl rfl rfl rfl rfl rfl
  | begun entering => exact begun_custody accounted custody entering _
  | @beginFailed task lease calls fault entering =>
    have moved (struck : State) (holds : Custody struck) (same : struck.tasks = state.tasks) :
        Custody { struck.handBack lease .discard with
          entrance := some (task, .abandoning lease) } := by
      have shifted : Custody { struck with entrance := some (task, .abandoning lease) } := by
        apply holds.setEntrance
        intro other stage isEntering
        obtain ⟨rfl, _⟩ := Prod.mk.inj (Option.some.inj isEntering)
        rw [same]
        exact custody.entering _ _ entering
      exact shifted.congr rfl rfl rfl rfl rfl rfl rfl rfl rfl
    cases fault with
    | none => exact moved state custody rfl
    | some fault => exact moved _ (custody.strike false fault) rfl
  | @abandoned task lease completed entering =>
    obtain ⟨vacant, _⟩ := accounted.vacant (by simp [entering])
    cases completed with
    | false => exact custody.leaveEntrance entering
    | true => exact (custody.giveUp vacant).leaveEntrance entering
  | @called task work idle accessible =>
    have awaited := custody.unawaited (by rw [idle]; simp : state.tasks task ≠ .exiting)
    have outside := custody.unentered (by rw [idle]; simp : state.tasks task ≠ .entering)
    apply Custody.request
    apply custody.setTask
    refine ⟨?_, ?_, ?_, awaited, outside⟩
    · intro working
      cases working
    · intro name leaves
      exact checkAccess_innermost custody accessible leaves
    · intro name saving
      cases saving
  | @withdrawn task work waiting =>
    have awaited := custody.unawaited (by rw [waiting]; simp : state.tasks task ≠ .exiting)
    have outside := custody.unentered (by rw [waiting]; simp : state.tasks task ≠ .entering)
    apply (custody.idle awaited outside).withdraw
    · intro other same
      obtain rfl := Party.task.inj same
      simp [State.setTask, Phase.working, Phase.operating]
    · intro isCloser
      cases isCloser
  | granted waiting held => exact granted_custody custody waiting held _
  | turned turn => exact turn.custody custody
  | saved saving => exact saved_custody custody saving
  | @joined task raised idle =>
    exact custody.setTask (Custody.fits_of_resting rfl rfl
      (custody.unawaited (by rw [idle]; simp)) (custody.unentered (by rw [idle]; simp)))
  | @exited task raised idle owns absent =>
    have unentered := custody.unentered (by rw [idle]; simp : state.tasks task ≠ .entering)
    have moved : Custody (state.setTask task .exiting) :=
      custody.setTask (Custody.fits_of_resting rfl rfl (by rw [absent]; simp [Closer.awaitedBy])
        unentered)
    apply moved.setCloser
    · intro engaged
      cases engaged
    · intro other awaited
      obtain rfl := Option.some.inj awaited
      simp [State.setTask]
  | @returned task phase =>
    apply custody.idle
    · obtain joining | ⟨_, finished⟩ := phase
      · exact custody.unawaited (by rw [joining]; simp)
      · rw [finished]
        simp [Closer.awaitedBy]
    · obtain joining | ⟨exiting, _⟩ := phase
      · exact custody.unentered (by rw [joining]; simp)
      · exact custody.unentered (by rw [exiting]; simp)
  | @closerStarts owner raised created =>
    apply Custody.request
    apply custody.setCloser
    · intro engaged
      cases engaged
    · intro task awaited
      exact custody.exiting task (by rw [created]; exact awaited)
  | closerDropped =>
    exact custody.setCloser (fun engaged => by cases engaged) (fun task awaited => by cases awaited)
  | closerCancelled =>
    have moved : Custody { state with closer := .finished } :=
      custody.setCloser (fun engaged => by cases engaged) (fun task awaited => by cases awaited)
    exact moved.withdraw .closer (fun task isTask => by cases isTask) (fun _ => rfl)
  | closed waiting held => exact close_custody custody waiting held
  | answered stepped => exact answered_custody custody stepped
  | closerReturned returning =>
    have held := custody.closerHolds (by rw [returning]; rfl)
    have moved : Custody { state with closer := .finished } :=
      custody.setCloser (fun engaged => by cases engaged) (fun task awaited => by cases awaited)
    exact moved.unlock (custody.quiet_of_closer held) rfl

/-- Whether a party drives the connection. -/
def State.drives (state : State) : Party → Bool
  | .task task => (state.tasks task).working
  | .closer => state.closer.engaged

/-- In every state of every run one party at most drives the connection, and none while an entry is
in progress. Only the owner of the nested scopes opens another or leaves the innermost one. -/
theorem connection_has_one_driver (config : Config) (events : List Event)
    (reached : Runs.run (step config) initial events = some state) :
    (∀ one other, state.drives one = true → state.drives other = true → one = other) ∧
      (∀ party, state.drives party = true → state.entrance = none) ∧
      (∀ task name, state.tasks task = .saving name → FreshName state.core task name) ∧
      ∀ task name, (state.tasks task).leaves = some name → Innermost state.core task name := by
  obtain ⟨accounted, custody⟩ : Accounted state ∧ Custody state := by
    refine Runs.run_invariant (fun reached => Accounted reached ∧ Custody reached) ?_
      ⟨initial_accounted, initial_custody⟩ reached
    intro before event after ⟨accounted, custody⟩ stepped
    have move := step_moves stepped
    exact ⟨move.accounted accounted, move.custody accounted custody⟩
  have locked (party : Party) (drives : state.drives party = true) : state.lock = some party := by
    cases party with
    | task task => exact custody.lockHeld task drives
    | closer => exact custody.closerHolds drives
  refine ⟨?_, ?_, custody.saving, custody.leaving⟩
  · intro one other drives also
    exact Option.some.inj ((locked one drives).symm.trans (locked other also))
  · intro party drives
    by_contra entering
    obtain ⟨vacant, unclosed⟩ := accounted.vacant (Option.isSome_iff_ne_none.mpr entering)
    cases party with
    | task task => simpa [vacant] using custody.leased task drives
    | closer => simpa [unclosed] using custody.shut drives

/-- Task 0 opens a nested scope while task 1 waits for the lock. -/
theorem connection_has_one_driver_saving :
    ∃ state,
      Runs.run (step { backend := .mariadb, readOnly := none, isolation := false }) initial
        [.enter 0, .acquired, .begun false, .call 0 .enterNested, .call 1 (.query false),
          .granted 0 true] = some state ∧ FreshName state.core 0 1 :=
  ⟨_, rfl, (connection_has_one_driver { backend := .mariadb, readOnly := none, isolation := false }
    [.enter 0, .acquired, .begun false, .call 0 .enterNested, .call 1 (.query false),
      .granted 0 true] rfl).2.2.1 0 1 rfl⟩

end Snekql.SharedTransaction
