import Snekql.NestedScopes

/-!
# Nested scopes mean nested transactions

`refer` gives a block its meaning without savepoints. A scope starts from the state
around it. It is kept when its block is left without an exception and no constraint
failure happened directly in it; then its state becomes the state around it, and
otherwise the state around it is what it was. `performed` lists every write that was
let through, each with the verdicts on the scopes it happened in.

The proof relates a runtime to a standing and a state. The savepoint stack and the scope
stack below the innermost scope never enter the argument except by staying as they are,
which is the frame of every block.
-/

namespace Snekql.NestedScopes

open Snekql.Transaction

universe u
variable {Database : Type u}

/-! ## The meaning of a block -/

/-- Whether the innermost scope takes further work. The whole transaction is lost by a
constraint failure outside every scope. -/
inductive Standing where
  | usable
  | failed
  | lost
deriving DecidableEq, Repr

/-- A write with the verdicts on its own scope and on the scopes around that one,
outermost first: `true` for a scope that was kept. -/
structure Performed (Database : Type u) where
  effect : Database → Database
  verdicts : List Bool

structure Outcome (Database : Type u) where
  raised : Option Raised
  standing : Standing
  database : Database
  performed : List (Performed Database)

/-- The exception that work meets in a scope that takes none. -/
def Standing.refusal : Standing → Option Raised
  | .usable => none
  | .failed => some (.refused .rollbackRequired)
  | .lost => some (.refused .unsafeConnection)

/-- A scope is kept when it was left without an exception and had no failure. -/
def Outcome.kept (inside : Outcome Database) : Bool :=
  inside.raised.isNone && inside.standing == .usable

/-- Leave a scope that was entered on this state. -/
def Outcome.leave (inside : Outcome Database) (database : Database) : Outcome Database :=
  { raised := if inside.kept then none else some (inside.raised.getD .rolledBack),
    standing := .usable,
    database := if inside.kept then inside.database else database,
    performed := inside.performed.map (fun write =>
      { write with verdicts := inside.kept :: write.verdicts }) }

/-- What a block does when it is run in a scope, or outside every scope if
`outermost`. -/
def refer : Program Database → Bool → Standing → Database → Outcome Database
  | .skip, _, standing, database =>
    { raised := none, standing := standing, database := database, performed := [] }
  | .write effect, _, standing, database =>
    match standing.refusal with
    | some refused =>
      { raised := some refused, standing := standing, database := database, performed := [] }
    | none =>
      { raised := none, standing := standing, database := effect database,
        performed := [{ effect := effect, verdicts := [] }] }
  | .violate _, outermost, standing, database =>
    match standing.refusal with
    | some refused =>
      { raised := some refused, standing := standing, database := database, performed := [] }
    | none =>
      { raised := some .constraint, standing := if outermost then .lost else .failed,
        database := database, performed := [] }
  | .query test positive negative, outermost, standing, database =>
    match standing.refusal with
    | some refused =>
      { raised := some refused, standing := standing, database := database, performed := [] }
    | none =>
      if test database then refer positive outermost standing database
      else refer negative outermost standing database
  | .raise raised, _, standing, database =>
    { raised := some raised, standing := standing, database := database, performed := [] }
  | .seq first second, outermost, standing, database =>
    let before := refer first outermost standing database
    match before.raised with
    | some _ => before
    | none =>
      let after := refer second outermost before.standing before.database
      { after with performed := before.performed ++ after.performed }
  | .attempt body catches handler, outermost, standing, database =>
    let before := refer body outermost standing database
    match before.raised with
    | none => before
    | some raised =>
      if catches raised then
        let after := refer (handler raised) outermost before.standing before.database
        { after with performed := before.performed ++ after.performed }
      else before
  | .nested body, _, standing, database =>
    match standing.refusal with
    | some refused =>
      { raised := some refused, standing := standing, database := database, performed := [] }
    | none => (refer body false .usable database).leave database

/-- The effects of the writes whose scopes were all kept, in the order of the writes. -/
def survivors (performed : List (Performed Database)) : List (Database → Database) :=
  (performed.filter (fun write => write.verdicts.all id)).map Performed.effect

/-- The state that a list of writes makes of another. -/
def replay (database : Database) (effects : List (Database → Database)) : Database :=
  effects.foldl (fun current effect => effect current) database

theorem survivors_append (before after : List (Performed Database)) :
    survivors (before ++ after) = survivors before ++ survivors after := by
  simp [survivors]

theorem replay_append (database : Database) (before after : List (Database → Database)) :
    replay database (before ++ after) = replay (replay database before) after := by
  simp [replay]

/-- The verdict on one more scope around them is the fate of all its writes. -/
theorem survivors_verdict (performed : List (Performed Database)) (kept : Bool) :
    survivors (performed.map (fun write => { write with verdicts := kept :: write.verdicts })) =
      if kept then survivors performed else [] := by
  cases kept <;> simp [survivors, List.filter_map, Function.comp_def]

/-- A block that is kept leaves nothing but its surviving writes; so does one that is not.

The induction is on the block. A scope that is left adds its verdict to each of its
writes, so that either all of its survivors survive or none does. -/
theorem refer_database (program : Program Database) (outermost : Bool) (standing : Standing)
    (database : Database) :
    (refer program outermost standing database).database =
      replay database (survivors (refer program outermost standing database).performed) := by
  induction program generalizing outermost standing database with
  | skip => rfl
  | write | violate => cases standing <;> rfl
  | query test positive negative positiveHolds negativeHolds =>
    cases standing with
    | usable =>
      cases tested : test database with
      | true => simpa [refer, Standing.refusal, tested] using positiveHolds outermost .usable database
      | false => simpa [refer, Standing.refusal, tested] using negativeHolds outermost .usable database
    | failed => rfl
    | lost => rfl
  | raise raised => rfl
  | seq first second firstHolds secondHolds =>
    have before := firstHolds outermost standing database
    simp only [refer]
    cases stopped : (refer first outermost standing database).raised with
    | some raised => exact before
    | none =>
      have after := secondHolds outermost (refer first outermost standing database).standing
        (refer first outermost standing database).database
      simp only [survivors_append, replay_append, ← before]
      exact after
  | attempt body catches handler bodyHolds handlerHolds =>
    have before := bodyHolds outermost standing database
    simp only [refer]
    cases stopped : (refer body outermost standing database).raised with
    | none => exact before
    | some raised =>
      cases caught : catches raised with
      | false => simpa [caught] using before
      | true =>
        have after := handlerHolds raised outermost (refer body outermost standing database).standing
          (refer body outermost standing database).database
        simp only [caught, if_true, survivors_append, replay_append, ← before]
        exact after
  | nested body bodyHolds =>
    cases standing with
    | usable =>
      have inside := bodyHolds false .usable database
      simp only [refer, Standing.refusal, Outcome.leave, survivors_verdict]
      cases kept : (refer body false .usable database).kept with
      | true => simpa using inside
      | false => simp [replay]
    | failed => rfl
    | lost => rfl

/-! ## The simulation -/

/-- How the fields and the working state show a standing. A failed scope may have
anything in its working state. -/
def Stands (runtime : Runtime Database) (database : Database) : Standing → Prop
  | .usable =>
    runtime.core.reusable = true ∧ (∀ top ∈ runtime.core.stack.head?, top.failed = false) ∧
      runtime.session.working = database
  | .failed =>
    runtime.core.reusable = true ∧ ∃ top ∈ runtime.core.stack.head?, top.failed = true
  | .lost => runtime.core.reusable = false ∧ runtime.core.stack = []

/-- An open transaction whose scopes are the block's own: the scope stack and the
savepoint stack have the same names. -/
structure Aligned (runtime : Runtime Database) : Prop where
  started : ∃ lease, runtime.core.connection = some lease
  unclosed : runtime.core.closed = false
  names : runtime.core.stack.map Scope.name = runtime.session.savepoints.map Prod.fst
  owner : runtime.core.nestedOwner = if runtime.core.stack.isEmpty then none else some 0

/-- What a block leaves as it was: everything but the working state, the trust in the
connection, the flag of the innermost scope and the count of names. -/
structure Framed (before after : Runtime Database) : Prop where
  connection : after.core.connection = before.core.connection
  closed : after.core.closed = before.core.closed
  owner : after.core.nestedOwner = before.core.nestedOwner
  names : after.core.stack.map Scope.name = before.core.stack.map Scope.name
  enclosing : after.core.stack.tail = before.core.stack.tail
  savepoints : after.session.savepoints = before.session.savepoints

theorem Framed.refl (runtime : Runtime Database) : Framed runtime runtime :=
  ⟨rfl, rfl, rfl, rfl, rfl, rfl⟩

theorem Framed.trans {first second third : Runtime Database} (before : Framed first second)
    (after : Framed second third) : Framed first third :=
  ⟨after.connection.trans before.connection, after.closed.trans before.closed,
    after.owner.trans before.owner, after.names.trans before.names,
    after.enclosing.trans before.enclosing, after.savepoints.trans before.savepoints⟩

variable {outermost : Bool} {database : Database} {outcome : Outcome Database}
  {runtime before : Runtime Database} {standing : Standing}

theorem Framed.isEmpty {after : Runtime Database} (framed : Framed before after) :
    after.core.stack.isEmpty = before.core.stack.isEmpty := by
  simpa using congrArg List.isEmpty framed.names

theorem Framed.aligned {after : Runtime Database} (framed : Framed before after)
    (aligned : Aligned before) :
    Aligned after where
  started := framed.connection ▸ aligned.started
  unclosed := framed.closed ▸ aligned.unclosed
  names := by rw [framed.names, framed.savepoints, aligned.names]
  owner := by rw [framed.owner, framed.isEmpty, aligned.owner]

/-- A runtime that represents a standing and a state of the reference. -/
structure Represents (runtime : Runtime Database) (outermost : Bool) (standing : Standing)
    (database : Database) : Prop where
  aligned : Aligned runtime
  depth : runtime.core.stack.isEmpty = outermost
  stands : Stands runtime database standing

/-- The transaction lets work through exactly when the reference does, and otherwise
refuses it for the same reason. -/
theorem Represents.requireConnection (represents : Represents runtime outermost standing database) :
    (standing = .usable ∧ ∃ lease, runtime.core.requireConnection = .ok lease) ∨
      ∃ reason, standing.refusal = some (.refused reason) ∧
        runtime.core.requireConnection = .error reason := by
  obtain ⟨lease, held⟩ := represents.aligned.started
  have unclosed := represents.aligned.unclosed
  have stands := represents.stands
  cases standing with
  | usable =>
    obtain ⟨trusted, unfailed, _⟩ := stands
    have allowed := (runtime.core.requireConnection_ok_iff lease).mpr
      ⟨unclosed, held, trusted, unfailed⟩
    exact .inl ⟨rfl, lease, allowed⟩
  | failed =>
    obtain ⟨trusted, top, isTop, flagged⟩ := stands
    obtain ⟨rest, stack⟩ := List.head?_eq_some_iff.mp isTop
    exact .inr ⟨.rollbackRequired, rfl, by
      simp [Core.requireConnection, unclosed, held, trusted, stack, flagged]⟩
  | lost =>
    exact .inr ⟨.unsafeConnection, rfl, by
      simp [Core.requireConnection, unclosed, held, stands.1]⟩

/-- The code and the reference came to the same end. -/
structure Agrees (before : Runtime Database) (outermost : Bool)
    (result : Option Raised × Runtime Database) (outcome : Outcome Database) : Prop where
  raised : result.1 = outcome.raised
  represents : Represents result.2 outermost outcome.standing outcome.database
  framed : Framed before result.2

/-- A block that stops where it started. -/
theorem Represents.agrees (represents : Represents runtime outermost standing database)
    (raised : Option Raised) (performed : List (Performed Database)) :
    Agrees runtime outermost (raised, runtime)
      { raised := raised, standing := standing, database := database, performed := performed } :=
  ⟨rfl, represents, Framed.refl runtime⟩

theorem Agrees.after {middle : Runtime Database} {result : Option Raised × Runtime Database}
    (framed : Framed before middle) (agrees : Agrees middle outermost result outcome)
    (performed : List (Performed Database)) :
    Agrees before outermost result { outcome with performed := performed } :=
  ⟨agrees.raised, agrees.represents, framed.trans agrees.framed⟩

theorem write_agrees (represents : Represents runtime outermost .usable database)
    (effect : Database → Database) (performed : List (Performed Database)) :
    Agrees runtime outermost
      (none, { runtime with
        session := { runtime.session with working := effect runtime.session.working } })
      { raised := none, standing := .usable, database := effect database,
        performed := performed } := by
  obtain ⟨trusted, unfailed, working⟩ := represents.stands
  have framed : Framed runtime { runtime with
      session := { runtime.session with working := effect runtime.session.working } } :=
    ⟨rfl, rfl, rfl, rfl, rfl, rfl⟩
  refine ⟨rfl, ⟨framed.aligned represents.aligned, represents.depth, ?_⟩, framed⟩
  exact ⟨trusted, unfailed, congrArg effect working⟩

/-- A constraint failure fails the innermost scope, or loses the connection when there
is none. -/
theorem violate_agrees (represents : Represents runtime outermost .usable database)
    (residue : Database → Database) (performed : List (Performed Database)) :
    Agrees runtime outermost
      (some .constraint,
        { core := runtime.core.settle true .constraint,
          session := { runtime.session with working := residue runtime.session.working } })
      { raised := some .constraint, standing := if outermost then .lost else .failed,
        database := database, performed := performed } := by
  obtain ⟨trusted, unfailed, working⟩ := represents.stands
  have depth := represents.depth
  cases stack : runtime.core.stack with
  | nil =>
    have isOutermost : outermost = true := by simpa [stack] using depth.symm
    have settled : runtime.core.settle true .constraint =
        { runtime.core with reusable := false } := by
      simp [Core.settle, stack]
    have framed : Framed runtime
        { core := runtime.core.settle true .constraint,
          session := { runtime.session with working := residue runtime.session.working } } := by
      rw [settled]
      exact ⟨rfl, rfl, rfl, rfl, rfl, rfl⟩
    refine ⟨rfl, ⟨framed.aligned represents.aligned, ?_, ?_⟩, framed⟩
    · rw [framed.isEmpty]
      exact depth
    · simp [isOutermost, Stands, settled, stack]
  | cons top rest =>
    have isInner : outermost = false := by simpa [stack] using depth.symm
    have settled : runtime.core.settle true .constraint =
        { runtime.core with stack := { top with failed := true } :: rest } := by
      simp [Core.settle, stack, trusted]
    have framed : Framed runtime
        { core := runtime.core.settle true .constraint,
          session := { runtime.session with working := residue runtime.session.working } } := by
      rw [settled]
      exact ⟨rfl, rfl, rfl, by simp [stack], by simp [stack], rfl⟩
    refine ⟨rfl, ⟨framed.aligned represents.aligned, ?_, ?_⟩, framed⟩
    · rw [framed.isEmpty]
      exact depth
    · simp [isInner, Stands, settled, trusted]

/-- The runtime inside a scope that was just entered. -/
def entered (runtime : Runtime Database) : Runtime Database :=
  { core := runtime.core.nextName.1.push 0 runtime.core.nextName.2,
    session := runtime.session.savepoint runtime.core.nextName.2 }

theorem enterNested_eq {lease : Nat} (allowed : runtime.core.requireConnection = .ok lease) :
    enterNested runtime = .ok (entered runtime, runtime.core.nextName.2) := by
  simp only [enterNested, allowed, entered]

theorem entered_represents (represents : Represents runtime outermost .usable database) :
    Represents (entered runtime) false .usable database := by
  obtain ⟨trusted, unfailed, working⟩ := represents.stands
  refine ⟨⟨represents.aligned.started, represents.aligned.unclosed, ?_, ?_⟩, rfl, ?_⟩
  · exact congrArg (List.cons (runtime.core.sequence + 1)) represents.aligned.names
  · rfl
  · refine ⟨trusted, ?_, working⟩
    intro top isTop
    have same : { name := runtime.core.sequence + 1, failed := false } = top :=
      Option.some.inj isTop
    exact same ▸ rfl

/-- Leaving the innermost scope: its savepoint is released, after a return to it unless
the scope is kept. -/
theorem exitNested_eq {name : Nat} {failed : Bool} {rest : List Scope} {saved : Database}
    {savepoints : List (Nat × Database)} (aligned : Aligned runtime)
    (trusted : runtime.core.reusable = true)
    (stack : runtime.core.stack = { name := name, failed := failed } :: rest)
    (saves : runtime.session.savepoints = (name, saved) :: savepoints) (raised : Option Raised) :
    exitNested runtime name raised =
      (if raised.isNone && !failed then none else some (raised.getD .rolledBack),
        { core := runtime.core.pop,
          session :=
            { working := if raised.isNone && !failed then runtime.session.working else saved,
              savepoints := savepoints } }) := by
  obtain ⟨lease, held⟩ := aligned.started
  have owned : runtime.core.nestedOwner = some 0 := by simpa [stack] using aligned.owner
  have checked : runtime.core.checkNestedExit 0 name = .ok () := by
    simp [Core.checkNestedExit, Core.checkNestedOwner, owned, aligned.unclosed, held, stack]
  have flag : runtime.core.scopeFailed name = failed := by simp [Core.scopeFailed, stack]
  have release (working : Database) :
      Session.release { working := working, savepoints := (name, saved) :: savepoints } name =
        some { working := working, savepoints := savepoints } := by
    simp [Session.release, Session.since]
  have rollback : runtime.session.rollbackTo name =
      some { working := saved, savepoints := (name, saved) :: savepoints } := by
    simp [Session.rollbackTo, Session.since, saves]
  have direct : runtime.session.release name =
      some { working := runtime.session.working, savepoints := savepoints } := by
    have shape : runtime.session =
        { working := runtime.session.working, savepoints := (name, saved) :: savepoints } := by
      rw [← saves]
    rw [shape]
    exact release _
  simp only [exitNested, checked, trusted, flag]
  cases raised with
  | some exception => simp [unwind, control, rollback, release]
  | none => cases failed <;> simp [unwind, control, rollback, release, direct]

/-- Inside a scope the connection cannot get lost, so the flag of the scope is the
standing. -/
theorem Stands.inScope {name : Nat} {failed : Bool} {rest : List Scope}
    (stands : Stands runtime database standing)
    (stack : runtime.core.stack = { name := name, failed := failed } :: rest) :
    runtime.core.reusable = true ∧ (standing == .usable) = !failed ∧
      (failed = false → runtime.session.working = database) := by
  cases standing with
  | usable =>
    obtain ⟨trusted, unfailed, working⟩ := stands
    have unflagged : failed = false := unfailed { name := name, failed := failed } (by simp [stack])
    exact ⟨trusted, by simp [unflagged], fun _ => working⟩
  | failed =>
    obtain ⟨trusted, flagged⟩ := stands
    have isFailed : failed = true := by simpa [stack] using flagged
    exact ⟨trusted, by simp [isFailed], by simp [isFailed]⟩
  | lost => simp [Stands, stack] at stands

/-- Leaving a scope restores the runtime around it, with the state of the scope if the
scope is kept. -/
theorem exitNested_agrees {inside : Runtime Database} {raised : Option Raised}
    (represents : Represents runtime outermost .usable database)
    (agrees : Agrees (entered runtime) false (raised, inside) outcome) :
    Agrees runtime outermost (exitNested inside runtime.core.nextName.2 raised)
      (outcome.leave database) := by
  obtain ⟨trusted, unfailed, working⟩ := represents.stands
  have framed := agrees.framed
  have saves : inside.session.savepoints =
      (runtime.core.sequence + 1, database) :: runtime.session.savepoints := by
    rw [framed.savepoints, ← working]
    rfl
  obtain ⟨failed, stack⟩ : ∃ failed, inside.core.stack =
      { name := runtime.core.sequence + 1, failed := failed } :: runtime.core.stack := by
    have names := framed.names
    have enclosing := framed.enclosing
    cases shape : inside.core.stack with
    | nil => simp [shape, entered, Core.push] at names
    | cons top rest =>
      simp only [shape, entered, Core.push, Core.nextName, List.map_cons, List.cons.injEq,
        List.tail_cons] at names enclosing
      exact ⟨top.failed, by rw [enclosing, ← names.1]⟩
  obtain ⟨stillTrusted, flag, state⟩ := agrees.represents.stands.inScope stack
  have kept : outcome.kept = (raised.isNone && !failed) := by
    rw [Outcome.kept, flag, ← agrees.raised]
  rw [Core.nextName, exitNested_eq agrees.represents.aligned stillTrusted stack saves raised]
  have restored : Framed runtime
      { core := inside.core.pop,
        session :=
          { working := if raised.isNone && !failed then inside.session.working else database,
            savepoints := runtime.session.savepoints } } := by
    refine ⟨framed.connection, framed.closed, ?_, ?_, ?_, rfl⟩
    · have owned : inside.core.nestedOwner = some 0 := framed.owner
      simp [Core.pop, stack, owned, represents.aligned.owner]
    · simp [Core.pop, stack]
    · simp [Core.pop, stack]
  refine ⟨?_, ⟨restored.aligned represents.aligned, ?_, ?_⟩, restored⟩
  · simp only [Outcome.leave, kept, ← agrees.raised]
  · rw [restored.isEmpty]
    exact represents.depth
  · refine ⟨stillTrusted, ?_, ?_⟩
    · simpa [Core.pop, stack] using unfailed
    · simp only [Outcome.leave, kept]
      split
      · next clean =>
        simp only [Bool.and_eq_true, Bool.not_eq_true'] at clean
        exact state clean.2
      · rfl

/-- Every block comes to the same end in the code and in the reference.

The induction is on the block. Work that is refused changes nothing on either side. A
scope is entered on a fresh savepoint, its block is simulated inside, and leaving it
restores the runtime around it. -/
theorem exec_agrees (program : Program Database)
    (represents : Represents runtime outermost standing database) :
    Agrees runtime outermost (exec program runtime) (refer program outermost standing database) := by
  induction program generalizing runtime outermost standing database with
  | skip => exact represents.agrees none []
  | raise raised => exact represents.agrees (some raised) []
  | write effect =>
    obtain ⟨rfl, lease, allowed⟩ | ⟨reason, refusal, refused⟩ := represents.requireConnection
    · simp only [exec, allowed]
      exact write_agrees represents effect _
    · simp only [exec, refer, refused, refusal]
      exact represents.agrees _ []
  | violate residue =>
    obtain ⟨rfl, lease, allowed⟩ | ⟨reason, refusal, refused⟩ := represents.requireConnection
    · simp only [exec, allowed]
      exact violate_agrees represents residue _
    · simp only [exec, refer, refused, refusal]
      exact represents.agrees _ []
  | query test positive negative positiveAgrees negativeAgrees =>
    obtain ⟨rfl, lease, allowed⟩ | ⟨reason, refusal, refused⟩ := represents.requireConnection
    · have working := represents.stands.2.2
      simp only [exec, refer, Standing.refusal, allowed, working]
      cases test database with
      | true => exact positiveAgrees represents
      | false => exact negativeAgrees represents
    · simp only [exec, refer, refused, refusal]
      exact represents.agrees _ []
  | seq first second firstAgrees secondAgrees =>
    have before := firstAgrees represents
    simp only [exec, refer]
    generalize exec first runtime = result at before ⊢
    obtain ⟨raised, after⟩ := result
    rw [← before.raised]
    cases raised with
    | some exception => exact before
    | none => exact (secondAgrees before.represents).after before.framed _
  | attempt body catches handler bodyAgrees handlerAgrees =>
    have before := bodyAgrees represents
    simp only [exec, refer]
    generalize exec body runtime = result at before ⊢
    obtain ⟨raised, after⟩ := result
    rw [← before.raised]
    cases raised with
    | none => exact before
    | some exception =>
      cases caught : catches exception with
      | true =>
        simp only [caught, if_true]
        exact (handlerAgrees exception before.represents).after before.framed _
      | false => simpa only [caught, Bool.false_eq_true, if_false] using before
  | nested body bodyAgrees =>
    obtain ⟨rfl, lease, allowed⟩ | ⟨reason, refusal, refused⟩ := represents.requireConnection
    · simp only [exec, enterNested_eq allowed]
      exact exitNested_agrees represents (bodyAgrees (entered_represents represents))
    · simp only [exec, refer, enterNested, refused, refusal]
      exact represents.agrees _ []

/-! ## What is committed -/

theorem begin_represents (database : Database) :
    Represents (begin database) true .usable database :=
  ⟨⟨⟨0, rfl⟩, rfl, rfl, rfl⟩, rfl, rfl, by simp [begin, Core.fresh], rfl⟩

/-- The exit commits exactly when the block is kept. -/
theorem ending_of_agrees {raised : Option Raised} {after : Runtime Database}
    (agrees : Agrees before true (raised, after) outcome) :
    (after.core.ending raised.isSome = .commit ↔ outcome.kept = true) ∧
      (outcome.kept = true → after.session.working = outcome.database) := by
  obtain ⟨same, ⟨_, depth, stands⟩, _⟩ := agrees
  have stack : after.core.stack = [] := List.isEmpty_iff.mp depth
  have sameRaised : raised = outcome.raised := same
  subst sameRaised
  rw [Outcome.kept]
  generalize outcome.standing = standing at stands ⊢
  cases standing with
  | usable =>
    obtain ⟨trusted, _, working⟩ := stands
    have trusts : after.core.reusable = true := trusted
    refine ⟨?_, fun _ => working⟩
    cases outcome.raised <;> simp [Core.ending, stack, trusts]
  | failed => simp [Stands, stack] at stands
  | lost =>
    have distrusted : after.core.reusable = false := stands.1
    constructor <;> cases outcome.raised <;> simp [Core.ending, stack, distrusted]

/-- A runtime that some block reaches somewhere inside a transaction on this state. -/
inductive Reached (database : Database) : Runtime Database → Prop where
  | begin : Reached database (begin database)
  | ran {runtime : Runtime Database} (program : Program Database) :
      Reached database runtime → Reached database (exec program runtime).2
  | entered {runtime inside : Runtime Database} {name : Nat} :
      Reached database runtime → enterNested runtime = .ok (inside, name) → Reached database inside

/-- A refused transaction refuses everything: no block changes it. -/
theorem exec_refused {reason : StateError}
    (refused : runtime.core.requireConnection = .error reason) (program : Program Database) :
    (exec program runtime).2 = runtime := by
  induction program with
  | skip => rfl
  | raise raised => rfl
  | write | violate | query => simp [exec, refused]
  | nested body => simp [exec, enterNested, refused]
  | seq first second firstKeeps secondKeeps =>
    simp only [exec]
    generalize exec first runtime = result at firstKeeps ⊢
    obtain ⟨raised, after⟩ := result
    cases raised with
    | some exception => exact firstKeeps
    | none =>
      have same : after = runtime := firstKeeps
      exact same ▸ secondKeeps
  | attempt body catches handler bodyKeeps handlerKeeps =>
    simp only [exec]
    generalize exec body runtime = result at bodyKeeps ⊢
    obtain ⟨raised, after⟩ := result
    have same : after = runtime := bodyKeeps
    cases raised with
    | none => exact bodyKeeps
    | some exception =>
      cases caught : catches exception with
      | true => simpa only [caught, if_true, same] using handlerKeeps exception
      | false => simpa only [caught, Bool.false_eq_true, if_false] using bodyKeeps

/-- Entering succeeds exactly when the scope around takes work. -/
theorem entered_of_ok {inside : Runtime Database} {name : Nat}
    (accepted : enterNested runtime = .ok (inside, name)) :
    (∃ lease, runtime.core.requireConnection = .ok lease) ∧ inside = entered runtime ∧
      name = runtime.core.nextName.2 := by
  cases required : runtime.core.requireConnection with
  | error reason => simp [enterNested, required] at accepted
  | ok lease =>
    rw [enterNested_eq required] at accepted
    obtain ⟨rfl, rfl⟩ := Prod.mk.inj (Except.ok.inj accepted)
    exact ⟨⟨lease, rfl⟩, rfl, rfl⟩

theorem Represents.usable {lease : Nat}
    (represents : Represents runtime outermost standing database)
    (allowed : runtime.core.requireConnection = .ok lease) :
    Represents runtime outermost .usable runtime.session.working := by
  obtain ⟨_, _, trusted, unfailed⟩ := (runtime.core.requireConnection_ok_iff lease).mp allowed
  exact ⟨represents.aligned, represents.depth, trusted, unfailed, rfl⟩

theorem Reached.represents (reached : Reached database runtime) :
    ∃ outermost standing current, Represents runtime outermost standing current := by
  induction reached with
  | begin => exact ⟨_, _, _, begin_represents database⟩
  | ran program _ ih =>
    obtain ⟨outermost, standing, current, represents⟩ := ih
    exact ⟨_, _, _, (exec_agrees program represents).represents⟩
  | entered _ accepted ih =>
    obtain ⟨outermost, standing, current, represents⟩ := ih
    obtain ⟨⟨lease, allowed⟩, rfl, _⟩ := entered_of_ok accepted
    exact ⟨_, _, _, entered_represents (represents.usable allowed)⟩

/-- Inside a scope whose flag is set, the standing is that of a failed scope. -/
theorem Agrees.failed {inside : Runtime Database} {raised : Option Raised}
    (agrees : Agrees (entered runtime) false (raised, inside) outcome)
    (flagged : inside.core.scopeFailed runtime.core.nextName.2 = true) :
    outcome.standing = .failed := by
  have names := agrees.framed.names
  cases stack : inside.core.stack with
  | nil => simp [stack, entered, Core.push] at names
  | cons top rest =>
    have named : top.name = runtime.core.nextName.2 := by
      simp only [stack, entered, Core.push, List.map_cons, List.cons.injEq] at names
      exact names.1
    have isFailed : top.failed = true := by
      simpa [Core.scopeFailed, stack, named] using flagged
    have stands := agrees.represents.stands
    obtain ⟨_, flag, _⟩ := stands.inScope stack
    rw [isFailed] at flag
    generalize outcome.standing = standing at stands flag ⊢
    cases standing with
    | usable => simp at flag
    | failed => rfl
    | lost => simp [Stands, stack] at stands

/-- A transaction commits what the nested transactions of its block mean: its writes
whose scopes were all kept, if the block itself is kept, and nothing otherwise. A scope
with a constraint failure in it ignores whatever its block still tries, ends without an
effect and with an exception, and leaves the scope around it usable. -/
theorem nested_scopes_are_transactions (program : Program Database) (database : Database) :
    runTransaction program database =
      (if (refer program true .usable database).kept then
        replay database (survivors (refer program true .usable database).performed)
      else database) ∧
    ∀ runtime inside name body, Reached database runtime →
      enterNested runtime = .ok (inside, name) →
      (exec body inside).2.core.scopeFailed name = true →
        (∀ more, (exec more (exec body inside).2).2 = (exec body inside).2) ∧
        (exec (.nested body) runtime).1 ≠ none ∧
        (exec (.nested body) runtime).2.session.working = runtime.session.working ∧
        ∃ lease, (exec (.nested body) runtime).2.core.requireConnection = .ok lease := by
  constructor
  · have agrees := exec_agrees program (begin_represents database)
    rw [← refer_database]
    unfold runTransaction
    generalize exec program (begin database) = result at agrees ⊢
    obtain ⟨raised, after⟩ := result
    obtain ⟨ending, working⟩ := ending_of_agrees agrees
    dsimp only
    cases ends : after.core.ending raised.isSome with
    | commit =>
      have kept := ending.mp ends
      rw [if_pos kept]
      exact working kept
    | rollback | discard => rw [if_neg (fun kept => by simp [ending.mpr kept] at ends)]
  · intro runtime inside name body reached accepted flagged
    obtain ⟨outermost, standing, current, anyhow⟩ := reached.represents
    obtain ⟨⟨lease, allowed⟩, rfl, rfl⟩ := entered_of_ok accepted
    have represents := anyhow.usable allowed
    have within := exec_agrees body (entered_represents represents)
    have standing := within.failed flagged
    have outside := exec_agrees (.nested body) represents
    have kept : (refer body false .usable runtime.session.working).kept = false := by
      simp [Outcome.kept, standing]
    have meaning : refer (.nested body) outermost .usable runtime.session.working =
        (refer body false .usable runtime.session.working).leave runtime.session.working := rfl
    rw [meaning] at outside
    have usable := outside.represents
    refine ⟨?_, ?_, ?_, ?_⟩
    · obtain ⟨same, _⟩ | ⟨reason, _, refused⟩ := within.represents.requireConnection
      · rw [standing] at same
        cases same
      · exact exec_refused refused
    · rw [outside.raised]
      simp [Outcome.leave, kept]
    · have working := usable.stands.2.2
      simpa [Outcome.leave, kept] using working
    · obtain ⟨_, allowedAfter⟩ | ⟨reason, refusal, _⟩ := usable.requireConnection
      · exact allowedAfter
      · cases refusal

/-- A scope whose failure was caught and that then writes once more: its own writes are
gone, and the transaction still commits what the scope around it does. -/
theorem nested_scopes_are_transactions_caught :
    runTransaction
      (.seq (.write (· + 1))
        (.seq
          (.attempt
            (.nested (.seq (.write (· + 10))
              (.seq (.attempt (.violate (· + 100)) (fun _ => true) (fun _ => .skip))
                (.attempt (.write (· + 100)) (fun _ => true) (fun _ => .skip)))))
            (fun _ => true) (fun _ => .skip))
          (.write (· + 1000)))) 0 = 1001 ∧
    (exec (.nested (.attempt (.violate (· + 100)) (fun _ => true) (fun _ => .skip)))
      (begin 5)).2.session.working = 5 := by
  constructor
  · rw [(nested_scopes_are_transactions _ 0).1]
    decide +kernel
  · exact ((nested_scopes_are_transactions .skip 5).2 (begin 5) _ _ _ .begin rfl rfl).2.2.1

end Snekql.NestedScopes
