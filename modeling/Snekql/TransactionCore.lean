import Mathlib.Data.List.Basic

/-!
# The bookkeeping of one transaction

A `Transaction` owns one leased connection. Besides the lease it keeps whether the
connection may still be trusted, and the stack of nested scopes that are open on it.
Every query, stream, nested scope and the final exit read and write these few
fields; here they are a record, with the checks and updates the methods share.

A nested scope is known by the number in its savepoint name, which the transaction
counts up, so two scopes of one transaction never have the same one.
-/

namespace Snekql.Transaction

/-- How a driver operation ended that did not return: it ran out of time, it was
cancelled, it raised, or the adapter recognised a completed constraint failure. -/
inductive Fault where
  | timeout
  | cancelled
  | error
  | constraint
deriving DecidableEq, Repr

/-- Why a call on a transaction is refused before it reaches the driver. -/
inductive StateError where
  | closed
  | notStarted
  | unsafeConnection
  | rollbackRequired
  | foreignTask
  | stackOrder
deriving DecidableEq, Repr

/-- A `_NestedTransaction` that is on the stack. -/
structure Scope where
  name : Nat
  failed : Bool
deriving DecidableEq, Repr

structure Core where
  connection : Option Nat
  closed : Bool
  /-- `_connection_reusable`. -/
  reusable : Bool
  /-- `_savepoint_sequence`. -/
  sequence : Nat
  /-- `_nested_stack`, with the innermost scope first. -/
  stack : List Scope
  nestedOwner : Option Nat
deriving DecidableEq, Repr

/-- The fields as `Transaction.__init__` sets them. -/
def Core.fresh : Core :=
  { connection := none, closed := false, reusable := true, sequence := 0, stack := [],
    nestedOwner := none }

/-- `_check_nested_owner`: an open nested scope reserves the transaction for the task
that entered it. -/
def Core.checkNestedOwner (core : Core) (task : Nat) : Except StateError Unit :=
  match core.nestedOwner with
  | none => .ok ()
  | some owner => if owner = task then .ok () else .error .foreignTask

/-- `require_connection`. -/
def Core.requireConnection (core : Core) : Except StateError Nat :=
  if core.closed then .error .closed
  else
    match core.connection with
    | none => .error .notStarted
    | some lease =>
      if !core.reusable then .error .unsafeConnection
      else
        match core.stack with
        | [] => .ok lease
        | top :: _ => if top.failed then .error .rollbackRequired else .ok lease

/-- The exception handlers of `_run_driver_operation`. -/
def Core.settle (core : Core) (recoverConstraints : Bool) (fault : Fault) : Core :=
  match fault, core.stack with
  | .constraint, top :: rest =>
    if recoverConstraints && core.reusable then
      { core with stack := { top with failed := true } :: rest }
    else { core with reusable := false }
  | _, _ => { core with reusable := false }

/-- The name that a nested scope takes before it asks for its savepoint. -/
def Core.nextName (core : Core) : Core × Nat :=
  ({ core with sequence := core.sequence + 1 }, core.sequence + 1)

/-- The end of `_NestedTransaction.__aenter__`, after the savepoint exists. -/
def Core.push (core : Core) (task name : Nat) : Core :=
  { core with stack := { name := name, failed := false } :: core.stack, nestedOwner := some task }

/-- The `finally` block of `_NestedTransaction.__aexit__`. -/
def Core.pop (core : Core) : Core :=
  { core with
    stack := core.stack.tail,
    nestedOwner := if core.stack.tail.isEmpty then none else core.nestedOwner }

/-- The `failed` flag of a scope that is on the stack. -/
def Core.scopeFailed (core : Core) (name : Nat) : Bool :=
  match core.stack.find? (fun scope => scope.name == name) with
  | some scope => scope.failed
  | none => false

/-- The checks of `_NestedTransaction.__aexit__` up to its lock. -/
def Core.checkNestedExit (core : Core) (task name : Nat) : Except StateError Unit :=
  match core.checkNestedOwner task with
  | .error refused => .error refused
  | .ok () =>
    if core.closed then .error .closed
    else if core.connection.isNone then .error .notStarted
    else
      match core.stack with
      | [] => .error .stackOrder
      | top :: _ => if top.name = name then .ok () else .error .stackOrder

/-- What `_close` decides to do with the connection it has taken. -/
inductive Ending where
  | discard
  | commit
  | rollback
deriving DecidableEq, Repr

/-- The branches of `_close` once it has the connection. -/
def Core.ending (core : Core) (raised : Bool) : Ending :=
  if !core.stack.isEmpty then .discard
  else if !core.reusable then .discard
  else if raised then .rollback
  else .commit

/-- What `_close` writes before it ends the native transaction. -/
def Core.close (core : Core) : Core :=
  if core.stack.isEmpty then { core with connection := none, closed := true }
  else
    { core with
      connection := none, closed := true, reusable := false, stack := [], nestedOwner := none }

/-- An operation is let through exactly on a started, trusted connection whose
innermost scope has not failed. -/
theorem Core.requireConnection_ok_iff (core : Core) (lease : Nat) :
    core.requireConnection = .ok lease ↔
      core.closed = false ∧ core.connection = some lease ∧ core.reusable = true ∧
        ∀ top ∈ core.stack.head?, top.failed = false := by
  unfold Core.requireConnection
  cases core.closed with
  | true => simp
  | false =>
    cases core.connection with
    | none => simp
    | some held =>
      cases core.reusable with
      | false => simp
      | true => cases core.stack with
        | nil => simp
        | cons top rest => cases failed : top.failed <;> simp [failed]

/-- A task may call when no scope is open, or the scopes are its own. -/
theorem Core.checkNestedOwner_ok_iff (core : Core) (task : Nat) :
    core.checkNestedOwner task = .ok () ↔
      core.nestedOwner = none ∨ core.nestedOwner = some task := by
  unfold Core.checkNestedOwner
  cases core.nestedOwner with
  | none => simp
  | some owner => by_cases same : owner = task <;> simp [same]

/-- Only the innermost scope may be left. -/
theorem Core.checkNestedExit_ok (core : Core) {task name : Nat}
    (checked : core.checkNestedExit task name = .ok ()) :
    (core.stack.map Scope.name).head? = some name := by
  unfold Core.checkNestedExit at checked
  split at checked
  · cases checked
  split at checked
  · cases checked
  split at checked
  · cases checked
  split at checked
  · cases checked
  · next top rest stack =>
    split at checked
    · next same => simp [stack, same]
    · cases checked

/-- A marked scope is on the stack. -/
theorem Core.mem_of_scopeFailed {core : Core} {name : Nat}
    (failed : core.scopeFailed name = true) : name ∈ core.stack.map Scope.name := by
  unfold Core.scopeFailed at failed
  split at failed
  · next scope found =>
    have same : scope.name = name := by simpa using List.find?_some found
    exact List.mem_map.mpr ⟨scope, List.mem_of_find?_eq_some found, same⟩
  · cases failed

/-- A fault costs the trust in the connection, unless it is a constraint failure in a scope
of a trusted connection: then it marks the scope. -/
theorem Core.settle_cases (core : Core) (recoverConstraints : Bool) (fault : Fault) :
    core.settle recoverConstraints fault = { core with reusable := false } ∨
      recoverConstraints = true ∧ fault = .constraint ∧ core.reusable = true ∧
        ∃ top rest, core.stack = top :: rest ∧
          core.settle recoverConstraints fault =
            { core with stack := { top with failed := true } :: rest } := by
  unfold Core.settle
  split
  · next top rest stack =>
    split
    · next recovered =>
      simp only [Bool.and_eq_true] at recovered
      exact .inr ⟨recovered.1, rfl, recovered.2, top, rest, stack, rfl⟩
    · exact .inl rfl
  · exact .inl rfl

/-- A fault changes neither the lease nor whether the transaction is closed. -/
theorem Core.settle_lease (core : Core) (recoverConstraints : Bool) (fault : Fault) :
    (core.settle recoverConstraints fault).connection = core.connection ∧
      (core.settle recoverConstraints fault).closed = core.closed := by
  unfold Core.settle
  split
  · split <;> exact ⟨rfl, rfl⟩
  · exact ⟨rfl, rfl⟩

theorem Core.settle_owner (core : Core) (recoverConstraints : Bool) (fault : Fault) :
    (core.settle recoverConstraints fault).nestedOwner = core.nestedOwner := by
  unfold Core.settle
  split
  · split <;> rfl
  · rfl

/-- A fault may set a flag, but no scope comes or goes. -/
theorem Core.settle_names (core : Core) (recoverConstraints : Bool) (fault : Fault) :
    (core.settle recoverConstraints fault).stack.map Scope.name = core.stack.map Scope.name ∧
      (core.settle recoverConstraints fault).sequence = core.sequence := by
  unfold Core.settle
  split
  · next stack =>
    split
    · exact ⟨by simp [stack], rfl⟩
    · exact ⟨rfl, rfl⟩
  · exact ⟨rfl, rfl⟩

/-- A scope that is left leaves the owner of the scopes in place, or was the last one. -/
theorem Core.pop_owner (core : Core) :
    core.pop.nestedOwner = core.nestedOwner ∨ core.pop.nestedOwner = none := by
  unfold Core.pop
  dsimp only
  split
  · exact .inr rfl
  · exact .inl rfl

/-- `_close` takes the lease and closes the transaction for good. -/
theorem Core.close_lease (core : Core) :
    core.close.connection = none ∧ core.close.closed = true := by
  unfold Core.close
  split <;> exact ⟨rfl, rfl⟩

/-- A connection that is discarded is not trusted; one whose transaction is ended by a
statement has no scope left, and nothing but the lease changes. -/
theorem Core.close_cases (core : Core) (raised : Bool) :
    core.ending raised = .discard ∧ core.close.reusable = false ∨
      core.ending raised = (if raised then .rollback else .commit) ∧ core.stack = [] ∧
        core.close = { core with connection := none, closed := true } := by
  unfold Core.ending Core.close
  cases stack : core.stack with
  | cons top rest => exact .inl ⟨rfl, rfl⟩
  | nil =>
    cases trusted : core.reusable with
    | false => exact .inl ⟨rfl, rfl⟩
    | true => exact .inr ⟨rfl, rfl, rfl⟩

theorem Core.close_stack (core : Core) : core.close.stack = [] := by
  unfold Core.close
  split
  · next empty => exact List.isEmpty_iff.mp empty
  · rfl

end Snekql.Transaction
