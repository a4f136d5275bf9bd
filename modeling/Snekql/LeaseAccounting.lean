import Mathlib.Data.List.Count
import Mathlib.Data.List.Nodup
import Snekql.Runs
import Snekql.TransactionMoves

/-!
# The lease of a transaction is accounted for

A connection that entry has acquired is with the entry, on the transaction, with the
closing task, or handed back. The law is that these four together are, after every step, a
permutation of the acquired leases. So no lease is ever handed back twice.

That a finished closing task leaves none outside the pool needs more: the closing task
gives up without the connection when a nested scope of another task is open by the time it
has the lock. The exit has made sure that none was, but tasks that asked for the lock
before it may open one in between, and no later exit closes the transaction again.
-/

namespace Snekql.SharedTransaction

open Snekql.Transaction

/-- The lease that an entry in progress has and has not yet handed back. -/
def Entrance.lease : Entrance → Option Nat
  | .acquiring => none
  | .beginning lease _ => some lease
  | .abandoning _ => none

/-- The lease that the closing task has taken and not yet handed back. -/
def Closer.lease : Closer → Option Nat
  | .committing lease => some lease
  | .rollingBack lease => some lease
  | .restoring lease _ _ => some lease
  | _ => none

/-- Every acquired lease, where it is. -/
def State.leases (state : State) : List Nat :=
  state.returns.map Prod.fst ++ state.core.connection.toList ++
    (state.entrance.bind (fun entrance => entrance.2.lease)).toList ++ state.closer.lease.toList

/-- The law of the leases. While an entry is in progress the transaction has none. -/
structure Accounted (state : State) : Prop where
  leases : state.leases.Perm (List.range state.acquired)
  vacant : state.entrance.isSome → state.core.connection = none ∧ state.core.closed = false

theorem initial_accounted : Accounted initial := by
  constructor
  · exact List.Perm.refl _
  · intro entering
    cases entering

variable {config : Config} {lease task : Nat} {state next : State}

section

variable (accounted : Accounted state)
include accounted

theorem Accounted.untouched (untouched : Untouched state next) : Accounted next where
  leases := by
    have same : next.leases = state.leases := by
      simp only [State.leases, untouched.connection, untouched.entrance, untouched.closer,
        untouched.returns]
    rw [same, untouched.acquired]
    exact accounted.leases
  vacant := by
    rw [untouched.entrance, untouched.connection, untouched.closed]
    exact accounted.vacant

/-- A lease that only changes hands stays accounted for. -/
theorem Accounted.pass (same : next.leases.Perm state.leases)
    (acquired : next.acquired = state.acquired)
    (vacant : next.entrance.isSome → next.core.connection = none ∧ next.core.closed = false) :
    Accounted next where
  leases := acquired ▸ same.trans accounted.leases
  vacant := vacant

theorem begun_accounted {call : BeginCall} {rest : List BeginCall}
    (entering : state.entrance = some (task, .beginning lease (call :: rest))) (found : Bool) :
    Accounted (begun state task lease call rest found) := by
  obtain ⟨vacant, unclosed⟩ := accounted.vacant (by simp [entering])
  cases rest with
  | nil =>
    refine accounted.pass ?_ ?_ (fun entered => by cases call <;> cases entered)
    · cases call <;>
        simp [State.leases, begun, State.setTask, State.record, entering, vacant, Entrance.lease]
    · cases call <;> rfl
  | cons second rest =>
    refine accounted.pass ?_ ?_ (fun _ => by cases call <;> exact ⟨vacant, unclosed⟩)
    · cases call <;> simp [State.leases, begun, State.record, entering, Entrance.lease]
    · cases call <;> rfl

theorem beginFailed_accounted {calls : List BeginCall}
    (entering : state.entrance = some (task, .beginning lease calls)) (fault : Option Fault) :
    Accounted (beginFailed state task lease fault) := by
  obtain ⟨vacant, unclosed⟩ := accounted.vacant (by simp [entering])
  have handed (struck : State) (untouched : Untouched state struck) :
      Accounted { struck.handBack lease .discard with
        entrance := some (task, .abandoning lease) } := by
    refine accounted.pass ?_ untouched.acquired
      (fun _ => ⟨untouched.connection.trans vacant, untouched.closed.trans unclosed⟩)
    simp [State.leases, State.handBack, untouched.returns, untouched.connection, untouched.closer,
      entering, vacant, Entrance.lease]
  cases fault with
  | none => exact handed state (Untouched.refl state)
  | some fault => exact handed _ (Untouched.strike state false fault)

theorem abandoned_accounted (entering : state.entrance = some (task, .abandoning lease))
    (ended : Bool) : Accounted (abandoned state task ended) := by
  refine accounted.pass ?_ ?_ (fun entered => by cases ended <;> cases entered)
  · cases ended <;> simp [State.leases, abandoned, State.setTask, entering, Entrance.lease]
  · cases ended <;> rfl

/-- A closing task without a lease may change where it is. -/
theorem Accounted.setCloser {closer : Closer} (before : state.closer.lease = none)
    (after : closer.lease = none) : Accounted { state with closer := closer } := by
  refine accounted.pass ?_ rfl accounted.vacant
  simp [State.leases, before, after]

/-- The closing task takes the connection, or hands it back at once. -/
theorem close_accounted {owner : Nat} {raised : Bool}
    (waiting : state.closer = .waiting owner raised) : Accounted (close state owner raised) := by
  have empty : state.closer.lease = none := by rw [waiting]; rfl
  unfold close
  split
  · exact (accounted.setCloser empty rfl).untouched ⟨rfl, rfl, rfl, rfl, rfl, rfl⟩
  · exact (accounted.setCloser empty rfl).untouched ⟨rfl, rfl, rfl, rfl, rfl, rfl⟩
  · next lease _ held =>
    have outside : state.entrance = none := by
      by_contra entering
      obtain ⟨vacant, _⟩ := accounted.vacant (Option.isSome_iff_ne_none.mpr entering)
      rw [held] at vacant
      cases vacant
    obtain ⟨taken, _⟩ := state.core.close_lease
    dsimp only
    split
    · have handed : Closer.lease .returning = none := rfl
      refine accounted.pass ?_ rfl (fun entered => by simp [State.handBack, outside] at entered)
      simp [State.leases, State.handBack, taken, held, outside, empty, handed]
    · have kept : Closer.lease (.committing lease) = some lease := rfl
      refine accounted.pass ?_ rfl (fun entered => by simp [State.record, outside] at entered)
      simp [State.leases, State.record, taken, held, outside, empty, kept]
    · have kept : Closer.lease (.rollingBack lease) = some lease := rfl
      refine accounted.pass ?_ rfl (fun entered => by simp [outside] at entered)
      simp [State.leases, taken, held, outside, empty, kept]

theorem giveBack_accounted (taken : state.closer.lease = some lease) :
    Accounted (state.giveBack lease) := by
  refine accounted.pass ?_ rfl accounted.vacant
  have handed : Closer.lease .returning = none := rfl
  apply List.perm_iff_count.mpr
  intro other
  simp only [State.leases, State.giveBack, State.handBack, taken, handed, List.map_append,
    List.map_cons, List.map_nil, Option.toList_none, Option.toList_some, List.append_nil,
    List.count_append]
  omega

theorem closeFailed_accounted (taken : state.closer.lease = some lease) (committing : Bool)
    (fault : Fault) : Accounted (closeFailed state lease committing fault) := by
  have untouched := Untouched.strike state false fault
  unfold closeFailed
  apply giveBack_accounted
  · cases committing with
    | false => exact accounted.untouched untouched
    | true =>
      refine accounted.untouched (untouched.trans ?_)
      simp only [if_true, State.takeEvidence]
      split <;> exact ⟨rfl, rfl, rfl, rfl, rfl, rfl⟩
  · cases committing with
    | false => exact taken
    | true =>
      simp only [if_true, State.takeEvidence]
      split <;> exact taken

/-- Whatever the driver answers, the closing task keeps its lease or hands it back. -/
theorem answered_accounted {answer : Answer}
    (stepped : answered config state state.closer answer = some next) : Accounted next := by
  cases closer : state.closer <;> rw [closer] at stepped
  case committing lease =>
    have taken : state.closer.lease = some lease := by rw [closer]; rfl
    cases answer <;> simp only [answered, Option.some.injEq] at stepped <;> subst stepped
    case acknowledged =>
      have kept : Closer.lease (.restoring lease true state.previous) = some lease := rfl
      refine accounted.pass ?_ rfl accounted.vacant
      simp [State.leases, State.record, taken, kept]
    case refused error inTransaction =>
      apply closeFailed_accounted
      · refine accounted.untouched ?_
        split <;> exact ⟨rfl, rfl, rfl, rfl, rfl, rfl⟩
      · split <;> exact taken
    case fault fault => exact closeFailed_accounted accounted taken true fault
  case rollingBack lease =>
    have taken : state.closer.lease = some lease := by rw [closer]; rfl
    cases answer <;> simp only [answered, Option.some.injEq, reduceCtorEq] at stepped <;>
      subst stepped
    case acknowledged =>
      have kept : Closer.lease (.restoring lease false state.previous) = some lease := rfl
      refine accounted.pass ?_ rfl accounted.vacant
      simp [State.leases, State.record, taken, kept]
    case fault fault => exact closeFailed_accounted accounted taken false fault
  case restoring lease committing rest =>
    have taken : state.closer.lease = some lease := by rw [closer]; rfl
    cases answer <;> cases rest <;>
      simp only [answered, Option.some.injEq, reduceCtorEq] at stepped <;> subst stepped
    case acknowledged.nil =>
      apply giveBack_accounted
      · refine accounted.untouched ?_
        split <;> exact ⟨rfl, rfl, rfl, rfl, rfl, rfl⟩
      · split <;> exact taken
    case acknowledged.cons setting rest =>
      have kept : Closer.lease (.restoring lease committing rest) = some lease := rfl
      refine accounted.pass ?_ rfl accounted.vacant
      simp [State.leases, State.record, taken, kept]
    case fault.nil fault => exact closeFailed_accounted accounted taken committing fault
    case fault.cons fault setting rest =>
      exact closeFailed_accounted accounted taken committing fault
  all_goals simp [answered] at stepped

theorem acquired_accounted (entering : state.entrance = some (task, .acquiring)) :
    Accounted { state with
      entrance := some (task, .beginning state.acquired config.beginCalls),
      acquired := state.acquired + 1, adapterOutcome := .notAttempted, previous := [] } := by
  obtain ⟨vacant, unclosed⟩ := accounted.vacant (by simp [entering])
  refine ⟨?_, fun _ => ⟨vacant, unclosed⟩⟩
  rw [List.range_succ]
  apply List.perm_iff_count.mpr
  intro lease
  have counted := List.perm_iff_count.mp accounted.leases lease
  simp only [State.leases, entering, vacant, Entrance.lease, Option.bind_some,
    Option.toList_none, Option.toList_some, List.append_nil, List.count_append] at counted ⊢
  omega

end

/-- No step loses a lease or hands one back twice. -/
theorem Move.accounted {event : Event} (move : Move config state event next)
    (accounted : Accounted state) : Accounted next := by
  cases move with
  | refused => exact accounted
  | entered _ outside free unclosed =>
    refine accounted.pass ?_ rfl (fun _ => ⟨free, unclosed⟩)
    simp [State.leases, State.setTask, outside, Entrance.lease]
  | acquireFailed entering =>
    refine accounted.pass ?_ rfl (fun entered => by cases entered)
    simp [State.leases, State.setTask, entering, Entrance.lease]
  | acquired entering => exact acquired_accounted accounted entering
  | begun entering => exact begun_accounted accounted entering _
  | beginFailed entering => exact beginFailed_accounted accounted entering _
  | abandoned entering => exact abandoned_accounted accounted entering _
  | called =>
    exact accounted.untouched
      (((Untouched.refl state).setTask _ _).trans (Untouched.request _ _))
  | withdrawn =>
    exact accounted.untouched
      (((Untouched.refl state).setTask _ _).trans (Untouched.withdraw _ _))
  | granted => exact accounted.untouched (granted_untouched state _ _ _)
  | turned turn => exact accounted.untouched turn.untouched
  | saved => exact accounted.untouched ⟨rfl, rfl, rfl, rfl, rfl, rfl⟩
  | joined => exact accounted.untouched ((Untouched.refl state).setTask _ _)
  | exited _ _ absent =>
    exact (accounted.setCloser (by rw [absent]; rfl) rfl).untouched
      ((Untouched.refl _).setTask _ _)
  | returned => exact accounted.untouched ((Untouched.refl state).setTask _ _)
  | closerStarts created =>
    exact (accounted.setCloser (by rw [created]; rfl) rfl).untouched (Untouched.request _ _)
  | closerDropped created => exact accounted.setCloser (by rw [created]; rfl) rfl
  | closerCancelled waiting =>
    exact (accounted.setCloser (by rw [waiting]; rfl) rfl).untouched (Untouched.withdraw _ _)
  | closed waiting => exact close_accounted accounted waiting
  | answered stepped => exact answered_accounted accounted stepped
  | closerReturned returning =>
    exact (accounted.setCloser (by rw [returning]; rfl) rfl).untouched
      ⟨rfl, rfl, rfl, rfl, rfl, rfl⟩

/-! ## When the closing task has finished -/

/-- The closing task has been created and has not taken the connection. -/
def Closer.pending : Closer → Bool
  | .created _ _ => true
  | .waiting _ _ => true
  | _ => false

/-- What may go wrong for a closing task is what happens before it has the lock. The exit
comes after the entry, nobody cancels the closing task itself, and no nested scope is
entered while it waits. -/
def orderly (state : State) : Event → Bool
  | .exit _ _ =>
    state.closer != .absent || state.core.connection.isSome || state.core.closed
  | .closerCancelled => false
  | .replied task .done =>
    match state.tasks task with
    | .saving _ => !state.closer.pending
    | _ => true
  | _ => true

/-- What the closing task finds and leaves in an orderly run. -/
def Promised (state : State) : Closer → Prop
  | .absent => True
  | .created owner _ =>
    state.core.checkNestedOwner owner = .ok () ∧
      (state.core.connection.isSome ∨ state.core.closed = true)
  | .waiting owner _ =>
    state.core.checkNestedOwner owner = .ok () ∧
      (state.core.connection.isSome ∨ state.core.closed = true)
  | _ => state.core.closed = true

structure Settled (state : State) : Prop where
  accounted : Accounted state
  taken : state.core.closed = true → state.core.connection = none
  promised : Promised state state.closer

theorem initial_settled : Settled initial :=
  ⟨initial_accounted, fun _ => rfl, trivial⟩

/-- The promise is kept while the closing task, the lease and the owner of the nested
scopes are, or when the owner has left them all. -/
theorem Promised.mono {closer : Closer} (promised : Promised state closer)
    (connection : state.core.connection.isSome → next.core.connection.isSome)
    (closed : state.core.closed = true → next.core.closed = true)
    (owner : next.core.nestedOwner = state.core.nestedOwner ∨ next.core.nestedOwner = none) :
    Promised next closer := by
  have checked (task : Nat) (before : state.core.checkNestedOwner task = .ok ()) :
      next.core.checkNestedOwner task = .ok () := by
    unfold Core.checkNestedOwner at before ⊢
    obtain same | left := owner
    · rw [same]
      exact before
    · rw [left]
  cases closer with
  | absent => trivial
  | created task raised | waiting task raised =>
    exact ⟨checked task promised.1, promised.2.imp connection closed⟩
  | committing | rollingBack | restoring | returning | finished => exact closed promised

/-- Only opening a nested scope gives the scopes an owner. -/
theorem Turn.owner (turn : Turn state task next) :
    next.core.nestedOwner = state.core.nestedOwner ∨ next.core.nestedOwner = none := by
  induction turn with
  | proceed | opened | stopped | ended => exact .inl rfl
  | distrusted _ _ ih => exact ih
  | @struck before after _ fault _ _ ih =>
    have same : (before.strike true fault).core.nestedOwner = before.core.nestedOwner :=
      before.core.settle_owner true fault
    exact same ▸ ih
  | @unsaved before _ _ fault => exact .inl (before.core.settle_owner false fault)
  | undone => exact .inl rfl
  | @left before => exact before.core.pop_owner
  | @unleft before _ _ fault =>
    have same := before.core.settle_owner false fault
    exact same ▸ (before.core.settle false fault).pop_owner

theorem request_owner (state : State) (party : Party) :
    (state.request party).core.nestedOwner = state.core.nestedOwner := by
  unfold State.request
  split <;> rfl

theorem withdraw_owner (state : State) (party : Party) :
    (state.withdraw party).core.nestedOwner = state.core.nestedOwner := by
  unfold State.withdraw
  split <;> rfl

theorem granted_owner (state : State) (task : Nat) (accepted : Bool) (work : Work) :
    (granted state task accepted work).core.nestedOwner = state.core.nestedOwner ∨
      (granted state task accepted work).core.nestedOwner = none := by
  cases work with
  | query | stream | enterNested => simp only [granted]; split <;> exact .inl rfl
  | exitNested name raised =>
    simp only [granted, beginExit]
    split
    · exact state.core.pop_owner
    · split <;> exact .inl rfl

/-- A step that leaves the lease and the closing task alone keeps the promise. -/
theorem Settled.untouched (settled : Settled state) (untouched : Untouched state next)
    (owner : next.core.nestedOwner = state.core.nestedOwner ∨ next.core.nestedOwner = none) :
    Settled next where
  accounted := settled.accounted.untouched untouched
  taken := by
    rw [untouched.closed, untouched.connection]
    exact settled.taken
  promised := by
    rw [untouched.closer]
    refine settled.promised.mono ?_ ?_ owner
    · rw [untouched.connection]
      exact id
    · rw [untouched.closed]
      exact id

theorem begun_core (state : State) (task lease : Nat) (call : BeginCall) (rest : List BeginCall)
    (found : Bool) :
    (begun state task lease call rest found).closer = state.closer ∧
      (begun state task lease call rest found).core =
        if rest.isEmpty then { state.core with connection := some lease } else state.core := by
  cases call <;> cases rest <;> exact ⟨rfl, rfl⟩

theorem beginFailed_core (state : State) (task lease : Nat) (fault : Option Fault) :
    (beginFailed state task lease fault).closer = state.closer ∧
      (beginFailed state task lease fault).core.connection = state.core.connection ∧
      (beginFailed state task lease fault).core.closed = state.core.closed ∧
      (beginFailed state task lease fault).core.nestedOwner = state.core.nestedOwner := by
  cases fault with
  | none => exact ⟨rfl, rfl, rfl, rfl⟩
  | some fault =>
    obtain ⟨connection, closed⟩ := state.core.settle_lease false fault
    exact ⟨rfl, connection, closed, state.core.settle_owner false fault⟩

/-- In an orderly run the closing task takes the connection, unless it was gone already. -/
theorem close_settled {owner : Nat} {raised : Bool} (settled : Settled state)
    (waiting : state.closer = .waiting owner raised) : Settled (close state owner raised) := by
  have accounted := close_accounted settled.accounted waiting
  have promised := settled.promised
  rw [waiting] at promised
  obtain ⟨owns, held⟩ := promised
  obtain ⟨vacated, shut⟩ := state.core.close_lease
  refine ⟨accounted, ?_, ?_⟩
  · intro _
    unfold close
    rw [owns]
    cases connection : state.core.connection with
    | none => exact connection
    | some lease =>
      dsimp only
      split <;> exact vacated
  · unfold close
    rw [owns]
    cases connection : state.core.connection with
    | none =>
      obtain present | gone := held
      · rw [connection] at present
        cases present
      · exact gone
    | some lease =>
      dsimp only
      split <;> exact shut

/-- A closing task that has taken the connection. -/
def Closer.engaged : Closer → Bool
  | .committing _ => true
  | .rollingBack _ => true
  | .restoring _ _ _ => true
  | .returning => true
  | _ => false

theorem promised_of_engaged {closer : Closer} (engaged : closer.engaged = true) :
    Promised state closer ↔ state.core.closed = true := by
  cases closer <;> simp_all [Closer.engaged, Promised]

theorem closeFailed_shape (state : State) (lease : Nat) (committing : Bool) (fault : Fault) :
    (closeFailed state lease committing fault).closer = .returning ∧
      (closeFailed state lease committing fault).core = state.core.settle false fault := by
  unfold closeFailed
  cases committing with
  | false => exact ⟨rfl, rfl⟩
  | true =>
    refine ⟨rfl, ?_⟩
    simp only [if_true, State.takeEvidence]
    split <;> rfl

/-- What the driver calls of the closing task leave alone. -/
structure Closing (state next : State) : Prop where
  lock : next.lock = state.lock
  tasks : next.tasks = state.tasks
  entrance : next.entrance = state.entrance
  connection : next.core.connection = state.core.connection
  closed : next.core.closed = state.core.closed
  owner : next.core.nestedOwner = state.core.nestedOwner
  names : next.core.stack.map Scope.name = state.core.stack.map Scope.name
  sequence : next.core.sequence = state.core.sequence

theorem closeFailed_closing (state : State) (lease : Nat) (committing : Bool) (fault : Fault) :
    Closing state (closeFailed state lease committing fault) := by
  obtain ⟨connection, closed⟩ := state.core.settle_lease false fault
  obtain ⟨names, sequence⟩ := state.core.settle_names false fault
  have owner := state.core.settle_owner false fault
  obtain ⟨_, core⟩ := closeFailed_shape state lease committing fault
  have frame : (closeFailed state lease committing fault).lock = state.lock ∧
      (closeFailed state lease committing fault).tasks = state.tasks ∧
      (closeFailed state lease committing fault).entrance = state.entrance := by
    unfold closeFailed
    cases committing with
    | false => exact ⟨rfl, rfl, rfl⟩
    | true =>
      simp only [if_true, State.takeEvidence]
      split <;> exact ⟨rfl, rfl, rfl⟩
  obtain ⟨lock, tasks, entrance⟩ := frame
  rw [← core] at connection closed names sequence owner
  exact ⟨lock, tasks, entrance, connection, closed, owner, names, sequence⟩

/-- The answers of the driver concern a closing task that has the connection, and leave it
so. -/
theorem answered_shape {answer : Answer}
    (stepped : answered config state state.closer answer = some next) :
    state.closer.engaged = true ∧ next.closer.engaged = true ∧ Closing state next := by
  have failed (before : State) (closing : Closing state before) (lease : Nat) (committing : Bool)
      (fault : Fault) :
      (closeFailed before lease committing fault).closer.engaged = true ∧
        Closing state (closeFailed before lease committing fault) := by
    obtain ⟨returning, _⟩ := closeFailed_shape before lease committing fault
    have after := closeFailed_closing before lease committing fault
    rw [returning]
    exact ⟨rfl, after.lock.trans closing.lock, after.tasks.trans closing.tasks,
      after.entrance.trans closing.entrance, after.connection.trans closing.connection,
      after.closed.trans closing.closed, after.owner.trans closing.owner,
      after.names.trans closing.names, after.sequence.trans closing.sequence⟩
  have same : Closing state state := ⟨rfl, rfl, rfl, rfl, rfl, rfl, rfl, rfl⟩
  cases closer : state.closer <;> rw [closer] at stepped
  case committing lease =>
    cases answer <;> simp only [answered, Option.some.injEq] at stepped <;> subst stepped
    case acknowledged => exact ⟨rfl, rfl, rfl, rfl, rfl, rfl, rfl, rfl, rfl, rfl⟩
    case refused error inTransaction =>
      refine ⟨rfl, failed _ ?_ lease true .error⟩
      split <;> exact ⟨rfl, rfl, rfl, rfl, rfl, rfl, rfl, rfl⟩
    case fault fault => exact ⟨rfl, failed state same lease true fault⟩
  case rollingBack lease =>
    cases answer <;> simp only [answered, Option.some.injEq, reduceCtorEq] at stepped <;>
      subst stepped
    case acknowledged => exact ⟨rfl, rfl, rfl, rfl, rfl, rfl, rfl, rfl, rfl, rfl⟩
    case fault fault => exact ⟨rfl, failed state same lease false fault⟩
  case restoring lease committing rest =>
    cases answer <;> cases rest <;>
      simp only [answered, Option.some.injEq, reduceCtorEq] at stepped <;> subst stepped
    case acknowledged.nil =>
      cases committing <;> exact ⟨rfl, rfl, rfl, rfl, rfl, rfl, rfl, rfl, rfl, rfl⟩
    case acknowledged.cons setting rest => exact ⟨rfl, rfl, rfl, rfl, rfl, rfl, rfl, rfl, rfl, rfl⟩
    case fault.nil fault => exact ⟨rfl, failed state same lease committing fault⟩
    case fault.cons fault setting rest => exact ⟨rfl, failed state same lease committing fault⟩
  all_goals simp [answered] at stepped

/-- Every orderly step keeps the promise to the closing task. -/
theorem Move.settled {event : Event} (move : Move config state event next)
    (ordered : orderly state event = true) (settled : Settled state) : Settled next := by
  have accounted := move.accounted settled.accounted
  cases move with
  | refused => exact settled
  | entered | acquireFailed | acquired =>
    exact ⟨accounted, settled.taken, settled.promised.mono id id (.inl rfl)⟩
  | @begun task lease call rest found entering =>
    obtain ⟨vacant, unclosed⟩ := settled.accounted.vacant (by simp [entering])
    obtain ⟨closer, core⟩ := begun_core state task lease call rest found
    have shut : (Snekql.SharedTransaction.begun state task lease call rest found).core.closed =
        state.core.closed := by
      rw [core]
      split <;> rfl
    refine ⟨accounted, ?_, ?_⟩
    · intro closed
      rw [shut, unclosed] at closed
      cases closed
    · rw [closer]
      refine settled.promised.mono ?_ ?_ ?_
      · intro held
        rw [vacant] at held
        cases held
      · rw [shut]
        exact id
      · rw [core]
        split <;> exact .inl rfl
  | @beginFailed task lease calls fault entering =>
    obtain ⟨closer, connection, closed, owner⟩ := beginFailed_core state task lease fault
    refine ⟨accounted, ?_, ?_⟩
    · rw [closed, connection]
      exact settled.taken
    · rw [closer]
      refine settled.promised.mono ?_ ?_ (.inl owner)
      · rw [connection]
        exact id
      · rw [closed]
        exact id
  | @abandoned task lease completed entering =>
    obtain ⟨vacant, unclosed⟩ := settled.accounted.vacant (by simp [entering])
    cases completed with
    | false => exact ⟨accounted, settled.taken, settled.promised.mono id id (.inl rfl)⟩
    | true => exact ⟨accounted, fun _ => vacant, settled.promised.mono id (fun _ => rfl) (.inl rfl)⟩
  | called =>
    exact settled.untouched (((Untouched.refl state).setTask _ _).trans (Untouched.request _ _))
      (.inl (request_owner _ _))
  | withdrawn =>
    exact settled.untouched (((Untouched.refl state).setTask _ _).trans (Untouched.withdraw _ _))
      (.inl (withdraw_owner _ _))
  | granted => exact settled.untouched (granted_untouched state _ _ _) (granted_owner state _ _ _)
  | turned turn => exact settled.untouched turn.untouched turn.owner
  | saved saving =>
    have idle : state.closer.pending = false := by simpa [orderly, saving] using ordered
    refine ⟨accounted, settled.taken, ?_⟩
    have promised := settled.promised
    change Promised _ state.closer
    cases closer : state.closer <;> rw [closer] at promised idle <;>
      first
        | exact promised
        | cases idle
  | joined => exact settled.untouched ((Untouched.refl state).setTask _ _) (.inl rfl)
  | exited _ owns absent =>
    have held : state.core.connection.isSome ∨ state.core.closed = true := by
      simpa [orderly, absent] using ordered
    exact ⟨accounted, settled.taken, owns, held⟩
  | returned => exact settled.untouched ((Untouched.refl state).setTask _ _) (.inl rfl)
  | @closerStarts owner raised created =>
    have promised := settled.promised
    rw [created] at promised
    have started : Settled { state with closer := .waiting owner raised } :=
      ⟨settled.accounted.setCloser (by rw [created]; rfl) rfl, settled.taken, promised⟩
    exact started.untouched (Untouched.request _ _) (.inl (request_owner _ _))
  | closerDropped => cases ordered
  | closerCancelled => cases ordered
  | closed waiting => exact close_settled settled waiting
  | answered stepped =>
    obtain ⟨before, after, closing⟩ := answered_shape stepped
    refine ⟨accounted, ?_, ?_⟩
    · rw [closing.closed, closing.connection]
      exact settled.taken
    · rw [promised_of_engaged after, closing.closed]
      exact (promised_of_engaged before).mp settled.promised
  | closerReturned returning =>
    have promised := settled.promised
    rw [returning] at promised
    exact ⟨accounted, settled.taken, promised⟩

/-- Of a permutation of the acquired leases, the handed back ones are distinct. -/
theorem Accounted.count_le_one (accounted : Accounted state) (lease : Nat) :
    (state.returns.map Prod.fst).count lease ≤ 1 := by
  have distinct : state.leases.Nodup := accounted.leases.nodup_iff.mpr List.nodup_range
  have counted := List.nodup_iff_count_le_one.mp distinct lease
  simp only [State.leases, List.count_append] at counted
  omega

/-- When nobody else has a lease, all of them are handed back. -/
theorem Settled.count_eq_one (settled : Settled state) (finished : state.closer = .finished)
    (acquired : lease < state.acquired) : (state.returns.map Prod.fst).count lease = 1 := by
  have promised := settled.promised
  rw [finished] at promised
  have vacant := settled.taken promised
  have outside : state.entrance = none := by
    by_contra entering
    obtain ⟨_, unclosed⟩ := settled.accounted.vacant (Option.isSome_iff_ne_none.mpr entering)
    have shut : state.core.closed = true := promised
    rw [unclosed] at shut
    cases shut
  have counted := List.perm_iff_count.mp settled.accounted.leases lease
  have once : (List.range state.acquired).count lease = 1 :=
    List.count_eq_one_of_mem List.nodup_range (List.mem_range.mpr acquired)
  rw [once] at counted
  have idle : Closer.lease .finished = none := rfl
  simpa only [State.leases, vacant, outside, finished, idle, Option.bind_none, Option.toList_none,
    List.append_nil] using counted

/-- No lease is ever handed back twice. In a run where every exit comes after the entry,
the closing task is not cancelled, and no nested scope is entered while it waits, a
finished closing task leaves every lease handed back. -/
theorem leases_are_handed_back_once (config : Config) (events : List Event)
    (reached : Runs.run (step config) initial events = some state) :
    (∀ lease, (state.returns.map Prod.fst).count lease ≤ 1) ∧
      (Runs.Along (step config) (fun before event => orderly before event = true) initial events →
        state.closer = .finished →
          ∀ lease < state.acquired, (state.returns.map Prod.fst).count lease = 1) := by
  constructor
  · have accounted : Accounted state :=
      Runs.run_invariant Accounted
        (fun _ _ _ before stepped => (step_moves stepped).accounted before)
        initial_accounted reached
    exact accounted.count_le_one
  · intro ordered finished lease acquired
    have settled : Settled state :=
      Runs.run_invariant_along Settled (fun before event => orderly before event = true)
        (fun _ _ _ before allowed stepped => (step_moves stepped).settled allowed before)
        initial_settled ordered reached
    exact settled.count_eq_one finished acquired

/-- One task enters, exits cleanly, and its closing task commits and returns. -/
theorem leases_are_handed_back_once_clean :
    ∃ state,
      Runs.run (step { backend := .sqlite, readOnly := some true, isolation := false }) initial
        [.enter 0, .acquired, .begun false, .begun false, .exit 0 false, .closerStarts,
          .closerGranted, .closerAnswered .acknowledged, .closerAnswered .acknowledged,
          .closerAnswered .acknowledged, .closerReturns] = some state ∧
        state.closer = .finished ∧ (state.returns.map Prod.fst).count 0 = 1 :=
  ⟨_, rfl, rfl,
    (leases_are_handed_back_once { backend := .sqlite, readOnly := some true, isolation := false }
        [.enter 0, .acquired, .begun false, .begun false, .exit 0 false, .closerStarts,
          .closerGranted, .closerAnswered .acknowledged, .closerAnswered .acknowledged,
          .closerAnswered .acknowledged, .closerReturns] rfl).2
      (by decide) rfl 0 (by decide)⟩

/-- Task 1 asks for a nested scope, task 0 exits, and the scope is open when the closing
task has the lock. The closing task gives up, and when task 1 leaves its scope and exits
too, it only finds a closing task that has finished. -/
theorem lease_is_lost_to_a_nested_scope :
    ∃ state,
      Runs.run (step { backend := .sqlite, readOnly := none, isolation := false }) initial
        [.enter 0, .acquired, .begun false, .call 1 .enterNested, .exit 0 false, .closerStarts,
          .granted 1 true, .replied 1 .done, .closerGranted, .returned 0,
          .call 1 (.exitNested 1 false), .granted 1 true, .replied 1 .done, .exit 1 false,
          .returned 1] = some state ∧
        state.closer = .finished ∧ state.acquired = 1 ∧
        (state.returns.map Prod.fst).count 0 = 0 :=
  ⟨_, rfl, rfl, rfl, rfl⟩

/-- In every state of every run each acquired lease is in one place: handed back, with the
transaction, or in the hands of its entry or of its closing task. -/
theorem leases_are_conserved (config : Config) (events : List Event)
    (reached : Runs.run (step config) initial events = some state) :
    state.leases.Perm (List.range state.acquired) :=
  (Runs.run_invariant Accounted
    (fun _ _ _ before stepped => (step_moves stepped).accounted before)
    initial_accounted reached).leases

/-- The lease of an entry in progress. -/
theorem leases_are_conserved_entering :
    ∃ state,
      Runs.run (step { backend := .mariadb, readOnly := none, isolation := false }) initial
        [.enter 0, .acquired] = some state ∧ state.leases.Perm [0] :=
  ⟨_, rfl, leases_are_conserved { backend := .mariadb, readOnly := none, isolation := false }
    [.enter 0, .acquired] rfl⟩

end Snekql.SharedTransaction
