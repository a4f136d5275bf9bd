import Snekql.TransactionCore

/-!
# Programs of nested scopes

A block under `async with db.transaction()` is a program: it writes, reads and
branches on what it read, violates constraints, raises, catches, and opens nested
scopes with `begin_nested`. `exec` runs it as the code does, on the transaction's
fields and on a session that has a working state and a stack of savepoints, with the
standard meaning of `SAVEPOINT`, `ROLLBACK TO` and `RELEASE`.

`refer` is what nested transactions mean, without savepoints, stacks or flags: a scope
works on the state it found and gives back either what it made of it or what it found.
It also keeps a record of every write with the way each scope around it was left.

A statement that violates a constraint may leave any residue of itself behind: nothing
here depends on the statement having been undone by the engine.
-/

namespace Snekql.NestedScopes

open Snekql.Transaction

universe u
variable {Database : Type u}

/-- The exceptions that travel through a block. -/
inductive Raised where
  /-- The statement failed a recognised constraint. -/
  | constraint
  /-- The transaction refused the call. -/
  | refused (reason : StateError)
  /-- "nested transaction rolled back after a caught constraint failure". -/
  | rolledBack
  /-- "nested transaction cannot release an unsafe connection". -/
  | unsafeRelease
  /-- "could not execute ..." of a savepoint statement. -/
  | controlFailed
  /-- The block's own exception. -/
  | application (code : Nat)
deriving DecidableEq, Repr

inductive Program (Database : Type u) where
  | skip
  | write (effect : Database → Database)
  | violate (residue : Database → Database)
  | query (test : Database → Bool) (positive negative : Program Database)
  | raise (raised : Raised)
  | seq (first second : Program Database)
  | attempt (body : Program Database) (catches : Raised → Bool) (handler : Raised → Program Database)
  | nested (body : Program Database)

/-! ## The session and its savepoints -/

structure Session (Database : Type u) where
  working : Database
  savepoints : List (Nat × Database)

/-- `SAVEPOINT name`. -/
def Session.savepoint (session : Session Database) (name : Nat) : Session Database :=
  { session with savepoints := (name, session.working) :: session.savepoints }

/-- The savepoints from the last one of this name on. -/
def Session.since (session : Session Database) (name : Nat) : List (Nat × Database) :=
  session.savepoints.dropWhile (fun savepoint => savepoint.1 != name)

/-- `ROLLBACK TO SAVEPOINT name`: the state is the saved one again, the savepoint
stays and the later ones are gone. -/
def Session.rollbackTo (session : Session Database) (name : Nat) : Option (Session Database) :=
  match session.since name with
  | [] => none
  | savepoint :: rest => some { working := savepoint.2, savepoints := savepoint :: rest }

/-- `RELEASE SAVEPOINT name`: the savepoint and the later ones are gone. -/
def Session.release (session : Session Database) (name : Nat) : Option (Session Database) :=
  match session.since name with
  | [] => none
  | _ :: rest => some { session with savepoints := rest }

/-! ## The code -/

structure Runtime (Database : Type u) where
  core : Core
  session : Session Database

/-- `_NestedTransaction._control`, with the effect of its statement on the session. -/
def control (runtime : Runtime Database)
    (command : Session Database → Option (Session Database)) : Option Raised × Runtime Database :=
  match command runtime.session with
  | some session => (none, { runtime with session := session })
  | none => (some .controlFailed, { runtime with core := runtime.core.settle false .error })

/-- `_NestedTransaction.__aenter__` by the one task of the block. -/
def enterNested (runtime : Runtime Database) : Except Raised (Runtime Database × Nat) :=
  match runtime.core.requireConnection with
  | .error reason => .error (.refused reason)
  | .ok _ =>
    let (core, name) := runtime.core.nextName
    .ok ({ core := core.push 0 name, session := runtime.session.savepoint name }, name)

/-- The control statements of `_NestedTransaction.__aexit__`. -/
def unwind (runtime : Runtime Database) (name : Nat) (raised failed : Bool) :
    Option Raised × Runtime Database :=
  if raised || failed then
    match control runtime (fun session => session.rollbackTo name) with
    | (none, undone) => control undone (fun session => session.release name)
    | stopped => stopped
  else control runtime (fun session => session.release name)

/-- `_NestedTransaction.__aexit__`: the exception that leaves the `async with`. -/
def exitNested (runtime : Runtime Database) (name : Nat) (raised : Option Raised) :
    Option Raised × Runtime Database :=
  match runtime.core.checkNestedExit 0 name with
  | .error reason => (some (.refused reason), runtime)
  | .ok () =>
    if !runtime.core.reusable then
      (some (raised.getD .unsafeRelease), { runtime with core := runtime.core.pop })
    else
      let failed := runtime.core.scopeFailed name
      let (stopped, after) := unwind runtime name raised.isSome failed
      -- An exception of the block is kept when the control statements fail.
      let left := raised.or (stopped.or (if failed then some .rolledBack else none))
      (left, { after with core := after.core.pop })

/-- Run a block on an open transaction. -/
def exec : Program Database → Runtime Database → Option Raised × Runtime Database
  | .skip, runtime => (none, runtime)
  | .write effect, runtime =>
    match runtime.core.requireConnection with
    | .error reason => (some (.refused reason), runtime)
    | .ok _ =>
      (none, { runtime with
        session := { runtime.session with working := effect runtime.session.working } })
  | .violate residue, runtime =>
    match runtime.core.requireConnection with
    | .error reason => (some (.refused reason), runtime)
    | .ok _ =>
      (some .constraint,
        { core := runtime.core.settle true .constraint,
          session := { runtime.session with working := residue runtime.session.working } })
  | .query test positive negative, runtime =>
    match runtime.core.requireConnection with
    | .error reason => (some (.refused reason), runtime)
    | .ok _ =>
      if test runtime.session.working then exec positive runtime else exec negative runtime
  | .raise raised, runtime => (some raised, runtime)
  | .seq first second, runtime =>
    match exec first runtime with
    | (none, after) => exec second after
    | stopped => stopped
  | .attempt body catches handler, runtime =>
    match exec body runtime with
    | (none, after) => (none, after)
    | (some raised, after) =>
      if catches raised then exec (handler raised) after else (some raised, after)
  | .nested body, runtime =>
    match enterNested runtime with
    | .error raised => (some raised, runtime)
    | .ok (entered, name) =>
      let (raised, after) := exec body entered
      exitNested after name raised

/-- The fields after `Transaction.__aenter__` on a session without savepoints. -/
def begin (database : Database) : Runtime Database :=
  { core := { Core.fresh with connection := some 0 },
    session := { working := database, savepoints := [] } }

/-- The whole `async with db.transaction()`: the state that is committed when the
closing task has ended. A rolled back or discarded connection commits nothing. -/
def runTransaction (program : Program Database) (database : Database) : Database :=
  let (raised, after) := exec program (begin database)
  match after.core.ending raised.isSome with
  | .commit => after.session.working
  | .rollback => database
  | .discard => database

end Snekql.NestedScopes
