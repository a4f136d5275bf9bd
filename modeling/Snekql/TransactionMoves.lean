import Snekql.SharedTransaction

/-!
# What a call under the lock can do

The many replies of the driver come down to a few effects on the transaction. `Turn` lists
them: an operation ends well or in a fault, the call goes on or gives the lock back, a
stream is opened or closed, and the three statements of a nested scope come back. A fault
or a lost trust in the connection may come before any of the ordinary ends.

No call of a task touches the lease, the entry, the closing task or the hand-backs.
-/

namespace Snekql.SharedTransaction

open Snekql.Transaction

/-- The phases of queries and streams that hold the lock. -/
def Phase.operating : Phase → Bool
  | .querying _ => true
  | .completing _ => true
  | .opening _ => true
  | .streaming _ _ => true
  | .fetching _ => true
  | .finishing _ _ => true
  | _ => false

/-- The phases that hold the lock. -/
def Phase.working : Phase → Bool
  | .saving _ => true
  | .undoing _ => true
  | .releasing _ => true
  | phase => phase.operating

theorem Phase.working_of_operating {phase : Phase} (operating : phase.operating = true) :
    phase.working = true := by
  cases phase <;> simp_all [Phase.operating, Phase.working]

/-- The effects of a driver reply on the transaction, but for the one that opens a nested
scope. -/
inductive Turn : State → Nat → State → Prop where
  | proceed {state : State} {task : Nat} (phase : Phase) :
      (state.tasks task).operating = true → phase.operating = true →
      Turn state task (state.setTask task phase)
  | opened {state : State} {task : Nat} (raw : Bool) :
      (state.tasks task).operating = true →
      Turn state task (({ state with streamOwner := some task }).setTask task (.streaming raw true))
  | stopped {state : State} {task : Nat} :
      (state.tasks task).operating = true → Turn state task (state.finish task)
  | ended {state : State} {task : Nat} :
      (state.tasks task).operating = true →
      Turn state task (({ state with streamOwner := none }).finish task)
  | distrusted {state next : State} {task : Nat} :
      (state.tasks task).operating = true → Turn state.distrust task next → Turn state task next
  | struck {state next : State} {task : Nat} (fault : Fault) :
      (state.tasks task).operating = true → Turn (state.strike true fault) task next →
      Turn state task next
  | unsaved {state : State} {task name : Nat} (fault : Fault) :
      state.tasks task = .saving name →
      Turn state task ((state.strike false fault).finish task)
  | undone {state : State} {task name : Nat} :
      state.tasks task = .undoing name →
      Turn state task ((state.record (.rolledBackTo name)).setTask task (.releasing name))
  | left {state : State} {task name : Nat} :
      state.tasks task = .releasing name →
      Turn state task
        (({ state.record (.released name) with core := state.core.pop }).finish task)
  | unleft {state : State} {task name : Nat} (fault : Fault) :
      state.tasks task = .undoing name ∨ state.tasks task = .releasing name →
      Turn state task
        (({ state.strike false fault with core := (state.core.settle false fault).pop }).finish task)

variable {task : Nat} {state next : State}

theorem cursorClosed_turns (state : State) (operating : (state.tasks task).operating = true)
    (raw : Bool) (next : AfterCursor) : Turn state task (cursorClosed state task raw next) := by
  cases next with
  | stays => exact .proceed _ operating rfl
  | leaves => exact .ended operating
  | aborts => exact .stopped operating

theorem afterFetch_turns (state : State) (operating : (state.tasks task).operating = true)
    (raw : Bool) : Turn state task (afterFetch state task raw) := by
  unfold afterFetch
  split <;> exact .proceed _ operating rfl

theorem completed_turns (state : State) (operating : (state.tasks task).operating = true)
    (pending : Option Fault) : Turn state task (completed state task pending) := by
  cases pending with
  | none => exact .stopped operating
  | some fault => exact .struck fault operating (.stopped operating)

/-- The savepoint of a nested scope exists. -/
def saved (state : State) (task name : Nat) : State :=
  ({ state.record (.savepoint name) with core := state.core.push task name }).finish task

/-- Every reply of the driver is one of these effects, or opens a nested scope. -/
theorem replied_turns {reply : Reply}
    (stepped : replied state task (state.tasks task) reply = some next) :
    (∃ name, state.tasks task = .saving name ∧ reply = .done ∧ next = saved state task name) ∨
      Turn state task next := by
  cases phase : state.tasks task <;> simp only [phase] at stepped
  case querying raw =>
    have operating : (state.tasks task).operating = true := by rw [phase]; rfl
    cases reply <;> cases raw <;> simp only [replied, Option.some.injEq, reduceCtorEq] at stepped <;>
      subst stepped
    case done.false => exact .inr (.stopped operating)
    case completing.true pending => exact .inr (.proceed _ operating rfl)
    case fault.false fault => exact .inr (.struck fault operating (.stopped operating))
    case fault.true fault => exact .inr (.struck fault operating (.stopped operating))
  case completing pending =>
    have operating : (state.tasks task).operating = true := by rw [phase]; rfl
    cases reply <;> simp only [replied, Option.some.injEq, reduceCtorEq] at stepped <;>
      subst stepped
    case done => exact .inr (completed_turns state operating pending)
    case additional => exact .inr (.distrusted operating (completed_turns state.distrust operating pending))
    case fault fault =>
      exact .inr (.struck fault operating (.struck _ operating (.stopped operating)))
  case opening raw =>
    have operating : (state.tasks task).operating = true := by rw [phase]; rfl
    cases reply <;> cases raw <;> simp only [replied, Option.some.injEq, reduceCtorEq] at stepped <;>
      subst stepped
    case done.false => exact .inr (.opened false operating)
    case done.true => exact .inr (.opened true operating)
    case invalid.true => exact .inr (.proceed _ operating rfl)
    case fault.false fault => exact .inr (.struck fault operating (.stopped operating))
    case fault.true fault => exact .inr (.struck fault operating (.stopped operating))
  case fetching raw =>
    have operating : (state.tasks task).operating = true := by rw [phase]; rfl
    cases reply <;> simp only [replied, Option.some.injEq, reduceCtorEq] at stepped <;>
      subst stepped
    case done => exact .inr (.proceed _ operating rfl)
    case exhausted => exact .inr (afterFetch_turns state operating raw)
    case invalid => exact .inr (afterFetch_turns state operating raw)
    case fault fault => exact .inr (.struck fault operating (afterFetch_turns (state.strike true fault) operating raw))
  case finishing raw after =>
    have operating : (state.tasks task).operating = true := by rw [phase]; rfl
    cases reply <;> cases raw <;> simp only [replied, Option.some.injEq, reduceCtorEq] at stepped <;>
      subst stepped
    case done.false => exact .inr (cursorClosed_turns state operating false after)
    case done.true => exact .inr (cursorClosed_turns state operating true after)
    case additional.true =>
      exact .inr (.distrusted operating
        (cursorClosed_turns state.distrust operating true after))
    case fault.false fault =>
      exact .inr (.struck fault operating
        (cursorClosed_turns (state.strike true fault) operating false after))
    case fault.true fault =>
      exact .inr (.struck fault operating
        (cursorClosed_turns (state.strike true fault) operating true after))
  case saving name =>
    cases reply <;> simp only [replied, Option.some.injEq, reduceCtorEq] at stepped <;>
      subst stepped
    case done => exact .inl ⟨name, rfl, rfl, rfl⟩
    case fault fault => exact .inr (.unsaved fault phase)
  case undoing name =>
    cases reply <;> simp only [replied, Option.some.injEq, reduceCtorEq] at stepped <;>
      subst stepped
    case done => exact .inr (.undone phase)
    case fault fault => exact .inr (.unleft fault (.inl phase))
  case releasing name =>
    cases reply <;> simp only [replied, Option.some.injEq, reduceCtorEq] at stepped <;>
      subst stepped
    case done => exact .inr (.left phase)
    case fault fault => exact .inr (.unleft fault (.inr phase))
  all_goals simp [replied] at stepped

/-- A read from a stream that is open, or the refusal of one. -/
theorem fetch_turns {raw : Bool} (streaming : state.tasks task = .streaming raw true) :
    fetch state task raw = state ∨ Turn state task (fetch state task raw) := by
  unfold fetch
  split
  · exact .inr (.proceed _ (by rw [streaming]; rfl) rfl)
  · exact .inl rfl

theorem leave_turns {raw cursor : Bool} (streaming : state.tasks task = .streaming raw cursor) :
    leave state task raw cursor = state ∨ Turn state task (leave state task raw cursor) := by
  have operating : (state.tasks task).operating = true := by rw [streaming]; rfl
  unfold leave
  split
  · split
    · exact .inr (.proceed _ operating rfl)
    · exact .inr (.ended operating)
  · exact .inl rfl

/-! ## What a step can do -/

/-- The steps of the system, each with what it needs. -/
inductive Move (config : Config) (state : State) : Event → State → Prop where
  | refused {event : Event} : Move config state event state
  | entered {task : Nat} :
      state.tasks task = .idle → state.entrance = none → state.core.connection = none →
      state.core.closed = false →
      Move config state (.enter task)
        (({ state with entrance := some (task, .acquiring) }).setTask task .entering)
  | acquireFailed {task : Nat} :
      state.entrance = some (task, .acquiring) →
      Move config state .acquireFailed (({ state with entrance := none }).setTask task .idle)
  | acquired {task : Nat} :
      state.entrance = some (task, .acquiring) →
      Move config state .acquired
        { state with
          entrance := some (task, .beginning state.acquired config.beginCalls),
          acquired := state.acquired + 1, adapterOutcome := .notAttempted, previous := [] }
  | begun {task lease : Nat} {call : BeginCall} {rest : List BeginCall} {found : Bool} :
      state.entrance = some (task, .beginning lease (call :: rest)) →
      Move config state (.begun found) (begun state task lease call rest found)
  | beginFailed {task lease : Nat} {calls : List BeginCall} {fault : Option Fault} :
      state.entrance = some (task, .beginning lease calls) →
      (fault = none → calls = config.beginCalls) →
      Move config state (.beginFailed fault) (beginFailed state task lease fault)
  | abandoned {task lease : Nat} {completed : Bool} :
      state.entrance = some (task, .abandoning lease) →
      Move config state (.abandoned completed) (abandoned state task completed)
  | called {task : Nat} {work : Work} :
      state.tasks task = .idle → checkAccess state task work = true →
      Move config state (.call task work)
        ((state.setTask task (.waiting work)).request (.task task))
  | withdrawn {task : Nat} {work : Work} :
      state.tasks task = .waiting work →
      Move config state (.withdraw task) ((state.setTask task .idle).withdraw (.task task))
  | granted {task : Nat} {accepted : Bool} {work : Work} :
      state.tasks task = .waiting work → state.lock = some (.task task) →
      Move config state (.granted task accepted) (granted state task accepted work)
  | turned {event : Event} {task : Nat} {next : State} :
      Turn state task next → Move config state event next
  | saved {task name : Nat} :
      state.tasks task = .saving name →
      Move config state (.replied task .done) (saved state task name)
  | joined {task : Nat} {raised : Bool} :
      state.tasks task = .idle → Move config state (.exit task raised) (state.setTask task .joining)
  | exited {task : Nat} {raised : Bool} :
      state.tasks task = .idle → state.core.checkNestedOwner task = .ok () →
      state.closer = .absent →
      Move config state (.exit task raised)
        (({ state with closer := .created task raised }).setTask task .exiting)
  | returned {task : Nat} :
      (state.tasks task = .joining ∨ state.tasks task = .exiting ∧ state.closer = .finished) →
      Move config state (.returned task) (state.setTask task .idle)
  | closerStarts {owner : Nat} {raised : Bool} :
      state.closer = .created owner raised →
      Move config state .closerStarts
        (({ state with closer := .waiting owner raised }).request .closer)
  | closerDropped {owner : Nat} {raised : Bool} :
      state.closer = .created owner raised →
      Move config state .closerCancelled { state with closer := .finished }
  | closerCancelled {owner : Nat} {raised : Bool} :
      state.closer = .waiting owner raised →
      Move config state .closerCancelled (({ state with closer := .finished }).withdraw .closer)
  | closed {owner : Nat} {raised : Bool} :
      state.closer = .waiting owner raised → state.lock = some .closer →
      Move config state .closerGranted (close state owner raised)
  | answered {answer : Answer} {next : State} :
      answered config state state.closer answer = some next →
      Move config state (.closerAnswered answer) next
  | closerReturned :
      state.closer = .returning →
      Move config state .closerReturns (({ state with closer := .finished }).unlock)

theorem isOk_ok {error : Type} {checked : Except error Unit} (passed : checked.isOk = true) :
    checked = .ok () := by
  cases checked with
  | ok _ => rfl
  | error _ => cases passed

theorem exit_moves {config : Config} (idle : state.tasks task = .idle) (raised : Bool) :
    Move config state (.exit task raised) (exit state task raised) := by
  unfold exit
  split
  · exact .refused
  · next owns =>
    split
    · exact .refused
    split
    · exact .joined idle
    · next absent =>
      exact .exited idle (isOk_ok (by simpa using owns)) (not_not.mp absent)

/-- A step does nothing but what is listed. -/
theorem step_moves {config : Config} {event : Event} (stepped : step config state event = some next)
    :
    Move config state event next := by
  cases event <;> simp only [step] at stepped
  case enter task =>
    simp only [step, Option.ite_none_right_eq_some, Option.some.injEq] at stepped
    obtain ⟨idle, rfl⟩ := stepped
    unfold enter
    split
    · exact .refused
    · next vacant =>
      split
      · exact .refused
      · next unclosed =>
        obtain ⟨outside, free⟩ : state.entrance = none ∧ state.core.connection = none := by
          simpa using vacant
        exact .entered idle outside free (by simpa using unclosed)
  case acquireFailed =>
    split at stepped
    · next entering => exact Option.some.inj stepped ▸ .acquireFailed entering
    · cases stepped
  case acquired =>
    split at stepped
    · next entering => exact Option.some.inj stepped ▸ .acquired entering
    · cases stepped
  case begun found =>
    split at stepped
    · next entering => exact Option.some.inj stepped ▸ .begun entering
    · cases stepped
  case beginFailed fault =>
    split at stepped
    · next entering =>
      simp only [Option.ite_none_right_eq_some, Option.some.injEq] at stepped
      obtain ⟨first, rfl⟩ := stepped
      refine .beginFailed entering ?_
      rintro rfl
      simpa using first
    · cases stepped
  case abandoned completed =>
    split at stepped
    · next entering => exact Option.some.inj stepped ▸ .abandoned entering
    · cases stepped
  case call task work =>
    split at stepped
    · next idle =>
      obtain rfl := Option.some.inj stepped
      unfold call
      split
      · next accessible => exact .called idle accessible
      · exact .refused
    · exact Option.some.inj stepped ▸ .refused
    · cases stepped
  case withdraw task =>
    split at stepped
    · next waiting => exact Option.some.inj stepped ▸ .withdrawn waiting
    · cases stepped
  case granted task accepted =>
    split at stepped
    · next waiting =>
      simp only [Option.ite_none_right_eq_some, Option.some.injEq] at stepped
      exact stepped.2 ▸ .granted waiting stepped.1
    · cases stepped
  case replied task reply =>
    obtain ⟨name, saving, rfl, rfl⟩ | turn := replied_turns stepped
    · exact .saved saving
    · exact .turned turn
  case fetch task =>
    split at stepped
    · next streaming =>
      obtain rfl := Option.some.inj stepped
      obtain same | turn := fetch_turns streaming
      · exact same.symm ▸ .refused
      · exact .turned turn
    · cases stepped
  case leave task =>
    split at stepped
    · next streaming =>
      obtain rfl := Option.some.inj stepped
      obtain same | turn := leave_turns streaming
      · exact same.symm ▸ .refused
      · exact .turned turn
    · cases stepped
  case exit task raised =>
    split at stepped
    · next idle => exact Option.some.inj stepped ▸ exit_moves idle raised
    · exact Option.some.inj stepped ▸ .refused
    · cases stepped
  case returned task =>
    split at stepped
    · next joining => exact Option.some.inj stepped ▸ .returned (.inl joining)
    · next exiting =>
      simp only [Option.ite_none_right_eq_some, Option.some.injEq] at stepped
      exact stepped.2 ▸ .returned (.inr ⟨exiting, stepped.1⟩)
    · cases stepped
  case closerStarts =>
    split at stepped
    · next created => exact Option.some.inj stepped ▸ .closerStarts created
    · cases stepped
  case closerCancelled =>
    split at stepped
    · next created => exact Option.some.inj stepped ▸ .closerDropped created
    · next waiting => exact Option.some.inj stepped ▸ .closerCancelled waiting
    · cases stepped
  case closerGranted =>
    split at stepped
    · next waiting =>
      simp only [Option.ite_none_right_eq_some, Option.some.injEq] at stepped
      exact stepped.2 ▸ .closed waiting stepped.1
    · cases stepped
  case closerAnswered answer => exact .answered stepped
  case closerReturns =>
    split at stepped
    · next returning => exact Option.some.inj stepped ▸ .closerReturned returning
    · cases stepped

/-! ## What the calls of tasks leave alone -/

/-- The fields that no call of a task changes. -/
structure Untouched (state next : State) : Prop where
  connection : next.core.connection = state.core.connection
  closed : next.core.closed = state.core.closed
  entrance : next.entrance = state.entrance
  closer : next.closer = state.closer
  returns : next.returns = state.returns
  acquired : next.acquired = state.acquired

namespace Untouched

theorem refl (state : State) : Untouched state state := ⟨rfl, rfl, rfl, rfl, rfl, rfl⟩

theorem trans {first second third : State} (before : Untouched first second)
    (after : Untouched second third) : Untouched first third :=
  ⟨after.connection.trans before.connection, after.closed.trans before.closed,
    after.entrance.trans before.entrance, after.closer.trans before.closer,
    after.returns.trans before.returns, after.acquired.trans before.acquired⟩

theorem request (state : State) (party : Party) : Untouched state (state.request party) := by
  unfold State.request
  split <;> exact ⟨rfl, rfl, rfl, rfl, rfl, rfl⟩

theorem withdraw (state : State) (party : Party) : Untouched state (state.withdraw party) := by
  unfold State.withdraw
  split <;> exact ⟨rfl, rfl, rfl, rfl, rfl, rfl⟩

theorem strike (state : State) (recoverConstraints : Bool) (fault : Fault) :
    Untouched state (state.strike recoverConstraints fault) := by
  obtain ⟨connection, closed⟩ := state.core.settle_lease recoverConstraints fault
  exact ⟨connection, closed, rfl, rfl, rfl, rfl⟩

theorem distrust (state : State) : Untouched state state.distrust :=
  ⟨rfl, rfl, rfl, rfl, rfl, rfl⟩

/-- A new phase and the lock handed on do not matter. -/
theorem finish (before : Untouched state next) (task : Nat) : Untouched state (next.finish task) :=
  before.trans ⟨rfl, rfl, rfl, rfl, rfl, rfl⟩

theorem setTask (before : Untouched state next) (task : Nat) (phase : Phase) :
    Untouched state (next.setTask task phase) :=
  before.trans ⟨rfl, rfl, rfl, rfl, rfl, rfl⟩

end Untouched

theorem granted_untouched (state : State) (task : Nat) (accepted : Bool) (work : Work) :
    Untouched state (granted state task accepted work) := by
  cases work with
  | query | stream =>
    simp only [granted]
    split
    · exact (Untouched.refl state).setTask task _
    · exact (Untouched.refl state).finish task
  | enterNested =>
    simp only [granted]
    split
    · exact ⟨rfl, rfl, rfl, rfl, rfl, rfl⟩
    · exact (Untouched.refl state).finish task
  | exitNested name raised =>
    simp only [granted, beginExit]
    split
    · exact ⟨rfl, rfl, rfl, rfl, rfl, rfl⟩
    · split <;> exact (Untouched.refl state).setTask task _

theorem Turn.untouched (turn : Turn state task next) : Untouched state next := by
  induction turn with
  | proceed phase => exact (Untouched.refl _).setTask _ phase
  | opened raw => exact ⟨rfl, rfl, rfl, rfl, rfl, rfl⟩
  | stopped => exact (Untouched.refl _).finish _
  | ended => exact ⟨rfl, rfl, rfl, rfl, rfl, rfl⟩
  | distrusted _ _ ih => exact (Untouched.distrust _).trans ih
  | struck fault _ _ ih =>
    exact (Untouched.strike _ true fault).trans ih
  | unsaved fault => exact (Untouched.strike _ false fault).finish _
  | undone | left => exact ⟨rfl, rfl, rfl, rfl, rfl, rfl⟩
  | unleft fault => exact (Untouched.strike _ false fault).trans ⟨rfl, rfl, rfl, rfl, rfl, rfl⟩

end Snekql.SharedTransaction
