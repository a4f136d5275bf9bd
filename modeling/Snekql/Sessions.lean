import Snekql.Programs
import Snekql.Runs

/-!
# Sessions on a database with one lock

Any number of sessions work on one database. Each runs one routine at a time, call by call, in any
interleaving. One session at a time can hold the lock. Either the lock is the write transaction
itself, or it is a lock by name and transactions are begun under it. A transaction works on its
own copy of the committed database, and a commit replaces the committed database by that copy.

A call returns, raises, or is abandoned. A call that raises may have had its effect, or may have
cost the session its transaction. A session that abandons a call is dead: it makes no further
calls. The abandoned call may still happen until the connection is gone, and the connection takes
its transaction and its lock with it.

A routine sees the committed database only while its session holds the lock. If the routines obey
rules about what they see, every change of the committed database is one the rules guarantee, and
every living session that has finished its routine has settled.
-/

namespace Snekql.Sessions

open Snekql.Programs

/-- How the lock relates to transactions. -/
inductive Locking where
  /-- The lock is the write transaction. -/
  | transactional
  /-- The lock is a name, and schema statements commit on their own. -/
  | advisory
deriving DecidableEq, Repr

/-- A call to the driver, or to the session's own flag. -/
inductive Call (Database : Type) where
  /-- Whether the session is still alive. -/
  | alive
  /-- Give the connection up. -/
  | discard
  /-- Switch enforcement, which has no effect in a transaction. -/
  | enforce (on : Bool)
  | lock
  | unlock
  | begin
  | commit
  | rollback
  | read
  | write (schema : Bool) (update : Database → Option Database)

inductive Reply (Database : Type) where
  | returned (database : Database)
  | raised
  | timedOut
  | cancelled

variable {Database Stop Result Operation : Type}

/-- What one connection works on. `held` is the open transaction, if any, of a session that holds
the lock. -/
structure Connection (Database : Type) where
  committed : Database
  free : Bool
  held : Option (Option Database)
  enforcing : Bool

namespace Connection

/-- The database as the connection sees it. -/
def database (connection : Connection Database) : Database :=
  match connection.held with
  | some (some working) => working
  | _ => connection.committed

/-- What is held once a transaction has ended. -/
def afterwards : Locking → Option (Option Database)
  | .transactional => none
  | .advisory => some none

/-- The effect of a call, where it can have one. -/
def perform (locking : Locking) (connection : Connection Database) :
    Call Database → Option (Connection Database)
  | .alive => some connection
  | .discard => some connection
  | .read => some connection
  | .enforce on =>
    match connection.held with
    | some (some _) => some connection
    | _ => some { connection with enforcing := on }
  | .lock =>
    match connection.held, locking with
    | none, .transactional =>
      if connection.free then some { connection with held := some (some connection.committed) }
      else none
    | none, .advisory =>
      if connection.free then some { connection with held := some none } else none
    | some _, .transactional => none
    | some _, .advisory => some connection
  | .unlock =>
    match connection.held with
    | some (some _) => none
    | _ => some { connection with held := none }
  | .begin =>
    match connection.held with
    | some none => some { connection with held := some (some connection.committed) }
    | _ => none
  | .commit =>
    match connection.held with
    | some (some working) =>
      some { connection with committed := working, held := afterwards locking }
    | _ => some connection
  | .rollback =>
    match connection.held with
    | some (some _) => some { connection with held := afterwards locking }
    | _ => some connection
  | .write schema update =>
    match connection.held with
    | some (some working) =>
      (update working).map fun written =>
        if schema && locking == .advisory then
          { connection with committed := written, held := some none }
        else { connection with held := some (some written) }
    | some none => (update connection.committed).map ({ connection with committed := · })
    | none =>
      if connection.free then
        (update connection.committed).map ({ connection with committed := · })
      else none

end Connection

/-- What became of a call that raised. -/
inductive Effect where
  | nothing
  | happened
  | rolledBack
deriving DecidableEq, Repr

def Connection.affect (locking : Locking) (connection : Connection Database)
    (request : Call Database) : Effect → Option (Connection Database)
  | .nothing => some connection
  | .happened => connection.perform locking request
  | .rolledBack => connection.perform locking .rollback

inductive Outcome where
  | returned
  | raised (effect : Effect)
  | abandoned (cancelled : Bool)
deriving DecidableEq, Repr

/-- A connection with the routine that uses it. `pending` is an abandoned call. -/
structure Session (Database Stop Result : Type) where
  alive : Bool
  enforcing : Bool
  pending : Option (Call Database)
  work : Option (Routine (Call Database) (Reply Database) Stop Result)

/-- `lock` is the session that holds the lock, with its open transaction. -/
structure State (Database Stop Result : Type) where
  committed : Database
  lock : Option (Nat × Option Database)
  sessions : List (Session Database Stop Result)

def initial (database : Database) : State Database Stop Result :=
  { committed := database, lock := none, sessions := [] }

namespace State

/-- What a session holds. -/
def held (state : State Database Stop Result) (index : Nat) : Option (Option Database) :=
  match state.lock with
  | some (owner, transaction) => if owner = index then some transaction else none
  | none => none

def connection (state : State Database Stop Result) (index : Nat)
    (session : Session Database Stop Result) : Connection Database :=
  { committed := state.committed
    free := state.lock.isNone
    held := state.held index
    enforcing := session.enforcing }

/-- Keep what became of the connection, and the session. -/
def put (state : State Database Stop Result) (index : Nat) (connection : Connection Database)
    (session : Session Database Stop Result) : State Database Stop Result :=
  { committed := connection.committed
    lock :=
      match connection.held with
      | some transaction => some (index, transaction)
      | none => if (state.held index).isSome then none else state.lock
    sessions := state.sessions.set index { session with enforcing := connection.enforcing } }

end State

inductive Event (Operation : Type) where
  | connect
  | start (session : Nat) (operation : Operation)
  | call (session : Nat) (outcome : Outcome)
  /-- An abandoned call happens after all. -/
  | late (session : Nat)
  | finish (session : Nat)
  | discard (session : Nat)
  /-- The connection of a dead session is gone. -/
  | disconnect (session : Nat)
deriving DecidableEq, Repr

variable (locking : Locking) (program : Operation →
  Routine (Call Database) (Reply Database) Stop Result)

/-- A living session makes a call. -/
def answer (state : State Database Stop Result) (index : Nat)
    (session : Session Database Stop Result) (request : Call Database)
    (next : Reply Database → Routine (Call Database) (Reply Database) Stop Result) :
    Outcome → Option (State Database Stop Result)
  | .returned =>
    ((state.connection index session).perform locking request).map fun connection =>
      state.put index connection { session with
        work := some (next (.returned connection.database)) }
  | .raised effect =>
    ((state.connection index session).affect locking request effect).map fun connection =>
      state.put index connection { session with work := some (next .raised) }
  | .abandoned cancelled =>
    some (state.put index (state.connection index session) { session with
      alive := false
      pending := some request
      work := some (next (if cancelled then .cancelled else .timedOut)) })

/-- The session's flag answers at once, and a dead session reaches nothing else. -/
def serve (state : State Database Stop Result) (index : Nat)
    (session : Session Database Stop Result) (request : Call Database)
    (next : Reply Database → Routine (Call Database) (Reply Database) Stop Result)
    (outcome : Outcome) : Option (State Database Stop Result) :=
  let connection := state.connection index session
  let reply (reply : Reply Database) (alive : Bool) : Option (State Database Stop Result) :=
    some (state.put index connection { session with alive, work := some (next reply) })
  match request, session.alive with
  | .discard, _ => reply (.returned connection.database) false
  | .alive, true => reply (.returned connection.database) true
  | request, true => answer locking state index session request next outcome
  | _, false => reply .raised false

def step (state : State Database Stop Result) :
    Event Operation → Option (State Database Stop Result)
  | .connect =>
    some { state with
      sessions := state.sessions ++
        [{ alive := true, enforcing := true, pending := none, work := none }] }
  | .start index operation =>
    match state.sessions[index]? with
    | some session =>
      match session.alive, session.work with
      | true, none =>
        some { state with
          sessions := state.sessions.set index
            { session with work := some (program operation) } }
      | _, _ => none
    | none => none
  | .call index outcome =>
    match state.sessions[index]? with
    | some session =>
      match session.work with
      | some (.call request next) => serve locking state index session request next outcome
      | _ => none
    | none => none
  | .late index =>
    match state.sessions[index]? with
    | some session =>
      match session.pending with
      | some request =>
        ((state.connection index session).perform locking request).map fun connection =>
          state.put index connection { session with pending := none }
      | none => none
    | none => none
  | .finish index =>
    match state.sessions[index]? with
    | some session =>
      match session.work with
      | some (.call _ _) => none
      | some _ =>
        some { state with
          sessions := state.sessions.set index { session with work := none } }
      | none => none
    | none => none
  | .discard index =>
    match state.sessions[index]? with
    | some session =>
      some { state with sessions := state.sessions.set index { session with alive := false } }
    | none => none
  | .disconnect index =>
    match state.sessions[index]? with
    | some session =>
      if session.alive then none
      else
        some (state.put index { state.connection index session with held := none }
          { session with pending := none })
    | none => none

end Snekql.Sessions
